import BalancerImport.Import.Desk
import BalancerImport.Proofs.Plan.Invariant

/-!
# Passes of the worker

A pass that releases the locks of flows that ended keeps the invariant, item by item and round by
round, and goes on until nothing waits any more.

* `Engine.IsWatch`, `Engine.MainsOver`, `Engine.Advances`: what a pass does not undo;
* `Worker.runTasks_locks`: trying tasks leaves the locks alone;
* `Worker.runItem_sound`: one flow of the queue; `Worker.runRound_sound`: the queue once;
* **`Worker.runRounds_quiet`**: rounds end with an empty queue;
* **`Desk.run_quiet`**: a pass ends with every flow over, and without locks.
-/

namespace BalancerImport

/-! ## What advances -/

namespace Engine

variable {e e' e'' : Engine} {id : Uuid}

/-- Whether an identifier is that of a watch. -/
def IsWatch (e : Engine) (id : Uuid) : Prop := ∃ g ∈ e.flows, g.id = id ∧ g.watch.isSome

/-- Whether all flows but the watches are over. -/
def MainsOver (e : Engine) : Prop := ∀ f ∈ e.flows, f.watch = none → f.state.isTerminal = true

/-- The watches are the same, and flows that are over stay over. -/
structure Advances (e e' : Engine) : Prop where
  isWatch : ∀ id, e'.IsWatch id ↔ e.IsWatch id
  mainsOver : e.MainsOver → e'.MainsOver

theorem Advances.refl (e : Engine) : e.Advances e := ⟨fun _ => .rfl, id⟩

theorem Advances.trans (h : e.Advances e') (h' : e'.Advances e'') : e.Advances e'' :=
  ⟨fun id => (h'.isWatch id).trans (h.isWatch id), fun ho => h'.mainsOver (h.mainsOver ho)⟩

theorem advances_modify {change : Flow → Flow} (hc : Flow.Ends change) :
    e.Advances (e.modify id change) := by
  constructor
  · intro u
    constructor
    · rintro ⟨g', hg', hid, hw⟩
      obtain ⟨g, hg, he, hwatch, -⟩ := hc.of_mem_modify hg'
      exact ⟨g, hg, he.symm.trans hid, hwatch ▸ hw⟩
    · rintro ⟨g, hg, hid, hw⟩
      obtain ⟨g', hg', he, hwatch, -⟩ := hc.mem_modify hg
      exact ⟨g', hg', he.trans hid, hwatch ▸ hw⟩
  · intro ho f' hf' hmain
    obtain ⟨f, hf, -, hwatch, -, hsame⟩ := hc.of_mem_modify hf'
    cases hst : f'.state.isTerminal with
    | true => rfl
    | false =>
      obtain rfl := hsame hst
      exact absurd (ho _ hf hmain) (by simp [hst])

end Engine

namespace Worker

/-! ## Tasks -/

variable {σ : Type} {perform : String → Json → σ → Except String Unit × σ}

theorem attempt_locks : ∀ (more : Nat) (t : TaskRecord) (s : σ × LockList),
    (attempt (Desk.releasing perform) more t s).2.2 = s.2
  | 0, _, _ => rfl
  | more + 1, t, s => by
    unfold attempt
    split
    · rename_i s' h
      exact (congrArg (fun p => p.2.2) h).symm
    · rename_i error s' h
      rw [attempt_locks more]
      exact (congrArg (fun p => p.2.2) h).symm

/-- Trying tasks leaves the locks alone. -/
theorem runTasks_locks : ∀ (ended : List (String × TaskState)) (ts : List TaskRecord)
    (s : σ × LockList), (runTasks (Desk.releasing perform) ended ts s).2.2 = s.2
  | _, [], _ => rfl
  | ended, t :: ts, s => by
    simp only [runTasks]
    rw [runTasks_locks]
    unfold runTask
    split
    · rfl
    · exact attempt_locks _ _ _

/-! ## Rounds -/

variable (perform) {e : Engine} {s : σ × LockList} {id : Uuid} {rest : List Uuid}

/-- **Working on a flow of the queue keeps the invariant.** If it has to wait, it is a watch, and
some other flow is not over; if not, it leaves the queue. -/
theorem runItem_sound (h : Dispatch.Sound (id :: rest) { engine := e, locks := s.2 }) :
    ∃ fate e' s', runItem (Desk.releasing perform) id e s = (.ok fate, e', s') ∧ e.Advances e' ∧
      ((fate = .requeued ∧ Dispatch.Sound (id :: rest) { engine := e', locks := s'.2 } ∧
          e.IsWatch id ∧ ¬ e.MainsOver) ∨
        (fate ≠ .requeued ∧ Dispatch.Sound rest { engine := e', locks := s'.2 })) := by
  obtain ⟨f, hf, rfl⟩ := h.known id List.mem_cons_self
  have hget : e.get f.id = .ok f := Engine.get_of_find? (h.find? hf)
  unfold runItem
  rw [hget]
  cases ho : f.state.isTerminal with
  | true =>
    -- it was over already
    simp only [ho, ↓reduceIte]
    refine ⟨_, _, _, rfl, .refl e, .inr ⟨nofun, h.drop fun g hg he => ?_⟩⟩
    rwa [h.eq_of_id hg hf he]
  | false =>
    simp only [ho, Bool.false_eq_true, ↓reduceIte]
    cases hw : f.watch with
    | some x =>
      obtain ⟨hkind, m, hm, hmain, hid⟩ := h.watching f hf x hw
      have hgetm : e.get x.flow = .ok m := Engine.get_of_find? (hid ▸ h.find? hm)
      simp only [hgetm]
      cases hover : m.state.isTerminal with
      | false =>
        -- a watch that has to wait
        simp only [Bool.false_eq_true, ↓reduceIte]
        refine ⟨_, _, _, rfl, .refl e, .inl ⟨rfl, h, ⟨f, hf, rfl, by rw [hw]; rfl⟩, fun hall => ?_⟩⟩
        exact absurd (hall m hm hmain) (by simp [hover])
      | true =>
        -- a watch whose flow is over
        simp only [↓reduceIte, Desk.releasing, Lock.releaseWatched_balancer hkind]
        refine ⟨_, _, _, rfl, Engine.advances_modify (ends_finishWatch _), .inr ⟨nofun, ?_⟩⟩
        refine (h.settle_watch (ends_finishWatch _) hf hw hm hid hover).drop fun g hg he => ?_
        exact Engine.over_of_modify (ends_finishWatch _) g hg he
    | none =>
      -- a flow for a balancer
      have hlocks : (runTasks (Desk.releasing perform) [] f.tasks s).2.2 = s.2 :=
        runTasks_locks _ _ _
      refine ⟨_, _, _, rfl, Engine.advances_modify (ends_outcome _), .inr ⟨nofun, ?_⟩⟩
      rw [hlocks]
      refine (h.settle_main (ends_outcome _) fun g hg he => ?_).drop fun g hg he => ?_
      · rwa [h.eq_of_id hg hf he]
      · exact Engine.over_of_modify (ends_outcome _) g hg he

/-- **A round keeps the invariant.** Those flows that have to wait are watches, and there are none
where the other flows are over. -/
theorem runRound_sound : ∀ (ids kept : List Uuid) (p : Pass (σ × LockList)),
    Dispatch.Sound (ids ++ kept) { engine := p.engine, locks := p.state.2 } →
    ∃ again p', runRound (Desk.releasing perform) ids kept p = (.ok (kept ++ again), p') ∧
      p.engine.Advances p'.engine ∧
      Dispatch.Sound (kept ++ again) { engine := p'.engine, locks := p'.state.2 } ∧
      again.Sublist ids ∧ (∀ id ∈ again, p.engine.IsWatch id) ∧ (p.engine.MainsOver → again = [])
  | [], kept, p, h => ⟨[], p, by rw [runRound, List.append_nil], .refl _, by simpa using h, .slnil,
      by simp, fun _ => rfl⟩
  | id :: rest, kept, p, h => by
    have h : Dispatch.Sound (id :: (rest ++ kept)) { engine := p.engine, locks := p.state.2 } := h
    obtain ⟨fate, e', s', hitem, hadv, hfate⟩ := runItem_sound perform h
    rw [runRound, hitem]
    rcases hfate with ⟨rfl, hsound, hwatch, hopen⟩ | ⟨hne, hsound⟩
    · have hmoved : Dispatch.Sound (rest ++ (kept ++ [id])) { engine := e', locks := s'.2 } :=
        hsound.requeue fun u => by
          simp only [List.mem_append, List.mem_cons, List.not_mem_nil, or_false]
          constructor
          · rintro (hu | hu | hu)
            · exact .inr (.inl hu)
            · exact .inr (.inr hu)
            · exact .inl hu
          · rintro (hu | hu | hu)
            · exact .inr (.inr hu)
            · exact .inl hu
            · exact .inr (.inl hu)
      obtain ⟨again, p', hround, hadv', hsound', hsub, hwatches, -⟩ := runRound_sound rest
        (kept ++ [id]) { engine := e', summary := Fate.requeued.count p.summary, state := s' }
        hmoved
      have hlist : kept ++ [id] ++ again = kept ++ id :: again := List.append_cons _ _ _ |>.symm
      rw [hlist] at hround hsound'
      refine ⟨id :: again, p', hround, hadv.trans hadv', hsound', hsub.cons_cons id, fun u hu => ?_,
        fun hover => absurd hover hopen⟩
      rcases List.mem_cons.mp hu with rfl | hu
      · exact hwatch
      · exact (hadv.isWatch u).mp (hwatches u hu)
    · obtain ⟨again, p', hround, hadv', hsound', hsub, hwatches, hnone⟩ := runRound_sound rest kept
        { engine := e', summary := fate.count p.summary, state := s' } hsound
      refine ⟨again, p', ?_, hadv.trans hadv', hsound', hsub.cons id, fun u hu => ?_,
        fun hover => ?_⟩
      · simp only [if_neg hne]
        exact hround
      · exact (hadv.isWatch u).mp (hwatches u hu)
      · exact hnone (hadv.mainsOver hover)

/-- **Rounds end with an empty queue.** Where a round does not shorten the queue, it kept all of it;
but then all of it are watches, so that the other flows are over and nothing is kept. -/
theorem runRounds_quiet : ∀ (queue : List Uuid) (p : Pass (σ × LockList)),
    Dispatch.Sound queue { engine := p.engine, locks := p.state.2 } →
    ∃ p', runRounds (Desk.releasing perform) queue p = (.ok (), p') ∧ p'.engine.queue = .empty ∧
      Dispatch.Sound [] { engine := p'.engine, locks := p'.state.2 }
  | queue, p, h => by
    have hqueue : Dispatch.Sound (queue ++ []) { engine := p.engine, locks := p.state.2 } := by
      rwa [List.append_nil]
    obtain ⟨again, p₁, hround, hadv, hsound, hsub, hwatches, hnone⟩ :=
      runRound_sound perform queue [] p hqueue
    rw [List.nil_append] at hround hsound
    rw [runRounds, hround]
    simp only
    split
    · exact runRounds_quiet again p₁ hsound
    · rename_i hlong
      have hall : again = queue := hsub.eq_of_length_le (by omega)
      have hover : p.engine.MainsOver := by
        intro f hf hmain
        cases ho : f.state.isTerminal with
        | true => rfl
        | false =>
          obtain ⟨g, hg, hid, hw⟩ := hwatches f.id (hall ▸ h.queued f hf ho)
          rw [h.eq_of_id hg hf hid, hmain] at hw
          exact nomatch hw
      obtain rfl := hnone hover
      exact ⟨_, rfl, rfl, hsound.congr rfl rfl rfl rfl rfl⟩
termination_by queue => queue.length

end Worker

/-! ## A pass -/

/-- With an empty queue every flow is over, and there are no locks. -/
theorem Dispatch.Sound.quiet {d : Dispatch LockList} (h : d.Sound []) :
    (∀ f ∈ d.engine.flows, f.state.isTerminal = true) ∧ d.locks = .empty := by
  have hover : ∀ f ∈ d.engine.flows, f.state.isTerminal = true := by
    intro f hf
    cases ho : f.state.isTerminal with
    | true => rfl
    | false => exact absurd (h.queued f hf ho) List.not_mem_nil
  refine ⟨hover, ?_⟩
  have hnone : d.locks.entries = [] := List.eq_nil_iff_forall_not_mem.mpr fun k hk => by
    obtain ⟨g, hg, ho, -⟩ := h.guarded k hk
    exact absurd (hover g hg) (by simp [ho])
  exact congrArg LockList.mk hnone

/-- **A pass of the worker succeeds, and leaves nothing that waits.** -/
theorem Desk.run_quiet {L σ : Type} {d : Desk L LockList}
    (h : d.dispatch.Sound d.dispatch.engine.queue.waiting)
    (perform : String → Json → σ → Except String Unit × σ) (s : σ) :
    ∃ sum s' d', d.run perform s = (.ok sum, s', d') ∧ d'.dispatch.Sound [] ∧
      d'.dispatch.engine.queue = .empty := by
  obtain ⟨p, hrounds, hqueue, hsound⟩ := Worker.runRounds_quiet perform
    d.dispatch.engine.queue.waiting
    { engine := d.dispatch.engine
      summary := { succeeded := 0, failed := 0, watches := 0, left := 0 }
      state := (s, d.dispatch.locks) } h
  refine ⟨{ p.summary with left := p.engine.queue.size }, p.state.1,
    { d with dispatch := { engine := p.engine, locks := p.state.2 } }, ?_, hsound, hqueue⟩
  simp only [Desk.run, Worker.runUntilIdle, hrounds]

end BalancerImport
