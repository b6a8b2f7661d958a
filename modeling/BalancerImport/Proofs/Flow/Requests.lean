import BalancerImport.Flow.Engine
import BalancerImport.Proofs.Fresh

/-!
# Requests to the engine

What an accepted request adds to the engine and what a refused one leaves behind.

* `Engine.Fresh`: no flow has an identifier that the engine is still to draw; `Fresh.append`: new
  flows keep it so;
* `submit_ok`, `submitWatch_ok`, `start_ok` and their refusals; `cancel_open`: one equation for each
  request;
* `find?_unique`: the flow with an identifier, where only one has it.
-/

namespace BalancerImport

namespace Engine

variable {e e' : Engine} {id : Uuid} {f : Flow}

/-- No flow has an identifier that is still to be drawn. -/
structure Fresh (e : Engine) : Prop where
  flow : Uuid.DrawsFresh e.seed .flow e.flowsDrawn (e.flows.map Flow.id)
  watch : Uuid.DrawsFresh e.seed .watch e.watchesDrawn (e.flows.map Flow.id)

/-- New flows with identifiers that were drawn for them. -/
theorem Fresh.append (h : e.Fresh) {new : List Flow} (hflows : e'.flows = e.flows ++ new)
    (hseed : e'.seed = e.seed) (hflow : e.flowsDrawn ≤ e'.flowsDrawn)
    (hwatch : e.watchesDrawn ≤ e'.watchesDrawn)
    (hnew : ∀ f ∈ new, ∃ family n, f.id = Uuid.drawn e.seed family n ∧
      (family = .flow → n < e'.flowsDrawn) ∧ (family = .watch → n < e'.watchesDrawn)) :
    e'.Fresh := by
  constructor
  · rw [hflows, List.map_append, hseed]
    refine (h.flow.mono hflow).append (.of_drawn fun id hid => ?_)
    obtain ⟨f, hf, rfl⟩ := List.mem_map.mp hid
    obtain ⟨family, n, he, hlt, -⟩ := hnew f hf
    exact ⟨family, n, he, hlt⟩
  · rw [hflows, List.map_append, hseed]
    refine (h.watch.mono hwatch).append (.of_drawn fun id hid => ?_)
    obtain ⟨f, hf, rfl⟩ := List.mem_map.mp hid
    obtain ⟨family, n, he, -, hlt⟩ := hnew f hf
    exact ⟨family, n, he, hlt⟩

/-! ## Looking up a flow -/

theorem mem_of_find? (h : e.find? id = some f) : f ∈ e.flows ∧ f.id = id :=
  ⟨List.mem_of_find?_eq_some h, by simpa using List.find?_some h⟩

theorem find?_unique (hf : f ∈ e.flows) (hu : ∀ g ∈ e.flows, g.id = f.id → g = f) :
    e.find? f.id = some f := by
  cases h : e.find? f.id with
  | none =>
    rw [find?, List.find?_eq_none] at h
    exact absurd (beq_self_eq_true f.id) (h f hf)
  | some g =>
    obtain ⟨hg, hid⟩ := mem_of_find? h
    rw [hu g hg hid]

/-! ## Accepted and refused requests -/

section

variable {name : String} {tasks : List Task} {shared : List (String × String)} {w : Watch}
  {error : FlowError} {reason : String}

theorem submit_ok (h : e.submit name tasks shared = (.ok id, e')) :
    id = Uuid.drawn e.seed .flow e.flowsDrawn ∧ ∃ budget,
      e' = { e with flows := e.flows ++ [dormantFlow id name tasks shared]
                    submitBudget := budget
                    flowsDrawn := e.flowsDrawn + 1 } := by
  unfold submit at h
  split at h
  · simp at h
  · split at h
    · simp at h
    · rename_i budget _
      simp only [Prod.mk.injEq, Except.ok.injEq] at h
      obtain ⟨rfl, rfl⟩ := h
      exact ⟨rfl, budget, rfl⟩

/-- Only chains of tasks are accepted. -/
theorem submit_checked (h : e.submit name tasks shared = (.ok id, e')) :
    checkChain tasks = .ok () := by
  unfold submit at h
  split at h
  · simp at h
  · assumption

theorem submit_error (h : e.submit name tasks shared = (.error error, e')) : e' = e := by
  unfold submit at h
  split at h
  · exact (congrArg Prod.snd h).symm
  · split at h
    · exact (congrArg Prod.snd h).symm
    · simp at h

theorem submitWatch_ok (h : e.submitWatch w = (.ok id, e')) :
    id = Uuid.drawn e.seed .watch e.watchesDrawn ∧
      e' = { e with flows := e.flows ++ [watchFlow id w]
                    queue := e.queue.enqueue id
                    watchesDrawn := e.watchesDrawn + 1 } := by
  unfold submitWatch at h
  split at h
  · simp at h
  · split at h
    · simp at h
    · simp only [Prod.mk.injEq, Except.ok.injEq] at h
      obtain ⟨rfl, rfl⟩ := h
      exact ⟨rfl, rfl⟩

/-- Only flows that exist are watched. -/
theorem submitWatch_known (h : e.submitWatch w = (.ok id, e')) : ∃ f, e.find? w.flow = some f := by
  unfold submitWatch at h
  split at h
  · simp at h
  · split at h
    · simp at h
    · rename_i hknown
      exact Option.isSome_iff_exists.mp (by simpa [Option.isNone_iff_eq_none,
        Option.isSome_iff_ne_none] using hknown)

theorem submitWatch_error (h : e.submitWatch w = (.error error, e')) : e' = e := by
  unfold submitWatch at h
  split at h
  · exact (congrArg Prod.snd h).symm
  · split at h
    · exact (congrArg Prod.snd h).symm
    · simp at h

theorem start_ok (h : e.start id = (.ok (), e')) : ∃ budget,
    e' = { e.modify id fun f => { f with state := .pending } with
           queue := e.queue.enqueue id, startBudget := budget } := by
  unfold start at h
  split at h
  · simp at h
  · rename_i budget _
    simp only [find?] at h
    split at h
    · simp at h
    · split at h
      · exact ⟨budget, (congrArg Prod.snd h).symm⟩
      · simp at h

/-- Only dormant flows are started. -/
theorem start_dormant (h : e.start id = (.ok (), e')) :
    ∃ f, e.find? id = some f ∧ f.state = .dormant := by
  unfold start at h
  split at h
  · simp at h
  · simp only [find?] at h ⊢
    split at h
    · simp at h
    · rename_i f hf
      split at h
      · rename_i hst
        exact ⟨f, hf, hst⟩
      · simp at h

theorem start_error (h : e.start id = (.error error, e')) :
    ∃ budget, e' = { e with startBudget := budget } := by
  unfold start at h
  split at h
  · exact ⟨e.startBudget, (congrArg Prod.snd h).symm⟩
  · rename_i budget _
    simp only [find?] at h
    split at h
    · exact ⟨budget, (congrArg Prod.snd h).symm⟩
    · split at h
      · simp at h
      · exact ⟨budget, (congrArg Prod.snd h).symm⟩

theorem cancel_open (h : e.find? id = some f) (ho : f.state.isTerminal = false) :
    (e.cancel id reason).2 = e.modify id (cancelFlow reason) := by
  unfold cancel
  rw [h]
  simp [ho]

/-- A request to cancel a flow that is over or missing changes nothing. -/
theorem cancel_cases : (e.cancel id reason).2 = e ∨ ∃ f, e.find? id = some f ∧
    f.state.isTerminal = false ∧ (e.cancel id reason).2 = e.modify id (cancelFlow reason) := by
  cases h : e.find? id with
  | none => left; unfold cancel; rw [h]
  | some f =>
    cases ho : f.state.isTerminal with
    | true => left; unfold cancel; rw [h]; simp [ho]
    | false => exact .inr ⟨f, rfl, ho, cancel_open h ho⟩

end

end Engine

end BalancerImport
