import BalancerImport.Flow.Worker
import BalancerImport.Proofs.Flow.Requests

/-!
# Flows that end

A flow ends when it is canceled, when its tasks were tried, and when what it watched was announced.
None of this touches another flow, or what names the flow and says what it is for.

* `Engine.modify_cases`, `Engine.map_id_modify`: what a change of a flow does to the others;
* `Flow.Ends`: a change that ends a flow; `of_mem_modify`, `mem_modify`: the flows after and before;
* `Engine.ends_cancelFlow`, `Worker.ends_finishWatch`, `Worker.ends_outcome`: the three of them.
-/

namespace BalancerImport

/-! ## Changes of a flow -/

namespace Engine

variable {change : Flow → Flow} {e : Engine} {id : Uuid} {f f' : Flow}

/-- The flows after a change of one of them: those that it was not about, and what it made. -/
theorem modify_cases (hf' : f' ∈ (e.modify id change).flows) :
    (f' ∈ e.flows ∧ f'.id ≠ id) ∨ ∃ f ∈ e.flows, f.id = id ∧ f' = change f := by
  obtain ⟨f, hf, rfl⟩ := List.mem_map.mp hf'
  by_cases he : f.id = id
  · exact .inr ⟨f, hf, he, if_pos he⟩
  · rw [if_neg he]
    exact .inl ⟨hf, he⟩

theorem mem_modify_of_ne (hf : f ∈ e.flows) (hne : f.id ≠ id) : f ∈ (e.modify id change).flows :=
  List.mem_map.mpr ⟨f, hf, if_neg hne⟩

theorem changed_mem_modify (hf : f ∈ e.flows) (he : f.id = id) :
    change f ∈ (e.modify id change).flows := List.mem_map.mpr ⟨f, hf, if_pos he⟩

theorem map_id_modify (hid : ∀ f, (change f).id = f.id) :
    (e.modify id change).flows.map Flow.id = e.flows.map Flow.id := by
  rw [modify, List.map_map]
  refine List.map_congr_left fun f _ => ?_
  rw [Function.comp_apply]
  split
  · exact hid f
  · rfl

theorem Fresh.modify (h : e.Fresh) (hid : ∀ f, (change f).id = f.id) :
    (e.modify id change).Fresh := by
  have hids : (e.modify id change).flows.map Flow.id = e.flows.map Flow.id := map_id_modify hid
  constructor
  · rw [hids]
    exact h.flow
  · rw [hids]
    exact h.watch

/-- Two changes of a flow, the first of which keeps its identifier. -/
theorem modify_modify (id : Uuid) (first second : Flow → Flow) (h : ∀ f, (first f).id = f.id) :
    (e.modify id first).modify id second = e.modify id fun f => second (first f) := by
  simp only [modify, List.map_map]
  congr 2
  funext f
  by_cases he : f.id = id <;> simp [he, h]

end Engine

/-! ## Changes that end a flow -/

/-- A change that ends a flow. -/
structure Flow.Ends (change : Flow → Flow) : Prop where
  id : ∀ f, (change f).id = f.id
  watch : ∀ f, (change f).watch = f.watch
  shared : ∀ f, (change f).shared = f.shared
  ended : ∀ f, (change f).state.isTerminal = true

namespace Flow.Ends

variable {change : Flow → Flow} {e : Engine} {id : Uuid} {f f' : Flow}

/-- A flow after one of them ended is as it was before, or over. -/
theorem of_mem_modify (hc : Ends change) (hf' : f' ∈ (e.modify id change).flows) :
    ∃ f ∈ e.flows, f'.id = f.id ∧ f'.watch = f.watch ∧ f'.shared = f.shared ∧
      (f'.state.isTerminal = false → f' = f) := by
  rcases Engine.modify_cases hf' with ⟨hf, -⟩ | ⟨f, hf, -, rfl⟩
  · exact ⟨f', hf, rfl, rfl, rfl, fun _ => rfl⟩
  · exact ⟨f, hf, hc.id f, hc.watch f, hc.shared f, fun ho => by simp [hc.ended f] at ho⟩

/-- Each flow is still there after one of them ended. -/
theorem mem_modify (hc : Ends change) (hf : f ∈ e.flows) :
    ∃ f' ∈ (e.modify id change).flows, f'.id = f.id ∧ f'.watch = f.watch ∧ f'.shared = f.shared ∧
      (f.id ≠ id → f' = f) := by
  by_cases he : f.id = id
  · exact ⟨change f, Engine.changed_mem_modify hf he, hc.id f, hc.watch f, hc.shared f,
      fun hne => absurd he hne⟩
  · exact ⟨f, Engine.mem_modify_of_ne hf he, rfl, rfl, rfl, fun _ => rfl⟩

theorem map_id_modify (hc : Ends change) :
    (e.modify id change).flows.map Flow.id = e.flows.map Flow.id := Engine.map_id_modify hc.id

end Flow.Ends

namespace Engine

variable {e : Engine} {id : Uuid} {f : Flow}

theorem over_of_modify {change : Flow → Flow} (hc : Flow.Ends change) :
    ∀ f ∈ (e.modify id change).flows, f.id = id → f.state.isTerminal = true := by
  intro f' hf' he
  rcases modify_cases hf' with ⟨-, hne⟩ | ⟨f, -, -, rfl⟩
  · exact absurd he hne
  · exact hc.ended f

theorem get_of_find? (h : e.find? id = some f) : e.get id = .ok f := by rw [get, h]

theorem ends_cancelFlow (reason : String) : Flow.Ends (cancelFlow reason) :=
  ⟨fun _ => rfl, fun _ => rfl, fun _ => rfl, fun _ => rfl⟩

end Engine

namespace Worker

theorem ends_finishWatch (answer : Except String Unit) : Flow.Ends (finishWatch answer) := by
  cases answer <;> exact ⟨fun _ => rfl, fun _ => rfl, fun _ => rfl, fun _ => rfl⟩

theorem isTerminal_outcome (tasks : List TaskRecord) : (outcome tasks).isTerminal = true := by
  unfold outcome
  split <;> rfl

theorem ends_outcome (tasks : List TaskRecord) :
    Flow.Ends fun f => { f with tasks := tasks, state := outcome tasks } :=
  ⟨fun _ => rfl, fun _ => rfl, fun _ => rfl, fun _ => isTerminal_outcome tasks⟩

end Worker

end BalancerImport
