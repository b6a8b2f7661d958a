import BalancerImport.Proofs.Flow.History
import BalancerImport.Proofs.Flow.Turns
import BalancerImport.Proofs.Lists

/-!
# Passes until idle

A pass goes on until a round gets nowhere. Then nothing is left to be done but to wait: the queue
holds those watches whose flows are not over, and the summary tells what the pass brought to an end.

* `Flow.Moved`: what a pass does to one flow; `Engine.Counted`: and what it counts meanwhile;
* `Engine.Waits`: a watch that has to wait; `Worker.runRound_waits`: a round over such watches;
* `Worker.runRound_counted`: a round that got nowhere had nothing but such watches to work on;
* `Engine.Settled`: an engine after a pass, and the summary of the pass;
* **`Engine.runUntilIdle_settled`**: every pass settles an engine, whatever was asked of it before.
-/

namespace BalancerImport

/-! ## Flows that are counted -/

/-- A flow that is neither over nor still to be worked on was never started. -/
theorem FlowState.eq_dormant (state : FlowState) (hopen : state.isTerminal = false)
    (hpending : state ≠ .pending) (hrunning : state ≠ .running) : state = .dormant := by
  cases state <;> simp_all [isTerminal]

namespace Flow

variable {f f' f'' : Flow}

/-- What a pass does to a flow: nothing, or it brings a pending flow to an end. -/
structure Moved (f f' : Flow) : Prop where
  id : f'.id = f.id
  watch : f'.watch = f.watch
  state : f'.state = f.state ∨ (f.state = .pending ∧ f'.state.isTerminal = true)

theorem Moved.refl (f : Flow) : Moved f f := ⟨rfl, rfl, .inl rfl⟩

theorem Moved.trans (h : Moved f f') (h' : Moved f' f'') : Moved f f'' where
  id := h'.id.trans h.id
  watch := h'.watch.trans h.watch
  state := by
    rcases h.state with he | ⟨hp, hover⟩
    · exact he ▸ h'.state
    · rcases h'.state with he | ⟨hp', -⟩
      · exact .inr ⟨hp, he ▸ hover⟩
      · rw [hp'] at hover
        exact nomatch hover

/-- Whether a flow is no watch, and in a state. -/
def isMainIn (state : FlowState) (f : Flow) : Bool := f.watch.isNone && f.state == state

/-- Whether a flow is a watch that is over. -/
def isWatchOver (f : Flow) : Bool := f.watch.isSome && f.state.isTerminal

/-- Whether a flow that is no watch went from pending to a state. -/
def wentTo (state : FlowState) (change : Flow × Flow) : Bool :=
  change.1.watch.isNone && change.1.state == .pending && change.2.state == state

/-- Whether a watch that was not over is over now. -/
def watchEnded (change : Flow × Flow) : Bool :=
  change.1.watch.isSome && !change.1.state.isTerminal && change.2.state.isTerminal

theorem Moved.isMainIn_eq (h : Moved f f') (state : FlowState) (hne : state ≠ .pending) :
    (f'.isMainIn state).toNat = (f.isMainIn state).toNat + (wentTo state (f, f')).toNat := by
  unfold isMainIn wentTo
  rw [h.watch]
  rcases h.state with he | ⟨hp, -⟩
  · rw [he]
    cases f.watch <;> cases hst : f.state <;> cases state <;> simp_all
  · rw [hp]
    cases f.watch <;> cases hst : f'.state <;> cases state <;> simp_all

theorem Moved.isWatchOver_eq (h : Moved f f') :
    f'.isWatchOver.toNat = f.isWatchOver.toNat + (watchEnded (f, f')).toNat := by
  unfold isWatchOver watchEnded
  rw [h.watch]
  rcases h.state with he | ⟨hp, hover⟩
  · rw [he]
    cases f.watch <;> cases f.state.isTerminal <;> rfl
  · rw [hp, hover]
    cases f.watch <;> rfl

end Flow

namespace Engine

variable {e e' e'' : Engine} {sum sum' sum'' : Summary} {queue : List Uuid} {f : Flow}
  {change : Flow → Flow}

/-- What a part of a pass did to the flows, and what it added to the summary. -/
structure Counted (e e' : Engine) (sum sum' : Summary) : Prop where
  moved : List.Forall₂ Flow.Moved e.flows e'.flows
  succeeded : e'.flows.countP (Flow.isMainIn .success) + sum.succeeded =
    e.flows.countP (Flow.isMainIn .success) + sum'.succeeded
  failed : e'.flows.countP (Flow.isMainIn .failed) + sum.failed =
    e.flows.countP (Flow.isMainIn .failed) + sum'.failed
  watches : e'.flows.countP Flow.isWatchOver + sum.watches =
    e.flows.countP Flow.isWatchOver + sum'.watches

theorem Counted.refl (e : Engine) (sum : Summary) : Counted e e sum sum :=
  ⟨List.forall₂_same.mpr fun f _ => .refl f, rfl, rfl, rfl⟩

theorem Counted.trans (h : Counted e e' sum sum') (h' : Counted e' e'' sum' sum'') :
    Counted e e'' sum sum'' where
  moved := forall₂_trans h.moved h'.moved fun _ _ _ => Flow.Moved.trans
  succeeded := by have := h.succeeded; have := h'.succeeded; omega
  failed := by have := h.failed; have := h'.failed; omega
  watches := by have := h.watches; have := h'.watches; omega

/-- What was added to the summary, told from the flows before and after. -/
theorem Counted.added (h : Counted e e' sum sum') :
    sum'.succeeded = sum.succeeded + (e.flows.zip e'.flows).countP (Flow.wentTo .success) ∧
      sum'.failed = sum.failed + (e.flows.zip e'.flows).countP (Flow.wentTo .failed) ∧
      sum'.watches = sum.watches + (e.flows.zip e'.flows).countP Flow.watchEnded := by
  have hsucceeded := h.succeeded
  have hfailed := h.failed
  have hwatches := h.watches
  rw [countP_zip_of_forall₂ h.moved fun _ _ hm => hm.isMainIn_eq .success nofun]
    at hsucceeded
  rw [countP_zip_of_forall₂ h.moved fun _ _ hm => hm.isMainIn_eq .failed nofun]
    at hfailed
  rw [countP_zip_of_forall₂ h.moved fun _ _ hm => hm.isWatchOver_eq] at hwatches
  refine ⟨?_, ?_, ?_⟩ <;> omega

/-- What is counted after a change of one flow that was not counted before. -/
theorem countP_modify (h : Orderly queue e) (hf : f ∈ e.flows) {p : Flow → Bool}
    (hp : p f = false) :
    (e.modify f.id change).flows.countP p = e.flows.countP p + (p (change f)).toNat := by
  obtain ⟨before, after, hsplit⟩ := List.append_of_mem hf
  have hnodup : (f.id :: (before ++ after).map Flow.id).Nodup := by
    have hids := h.ids_nodup
    rw [hsplit, List.map_append, List.map_cons, List.nodup_middle] at hids
    rwa [List.map_append]
  have hne : ∀ g ∈ before ++ after, g.id ≠ f.id := fun g hg he =>
    (List.nodup_cons.mp hnodup).1 (he ▸ List.mem_map_of_mem hg)
  have hkept : ∀ l : List Flow, (∀ g ∈ l, g.id ≠ f.id) →
      (l.map fun g => if g.id = f.id then change g else g) = l :=
    fun l hl => map_eq_self fun g hg => if_neg (hl g hg)
  have hbefore := hkept before fun g hg => hne g (List.mem_append_left _ hg)
  have hafter := hkept after fun g hg => hne g (List.mem_append_right _ hg)
  simp only [modify, hsplit, List.map_append, List.map_cons, if_true, hbefore, hafter,
    List.countP_append, List.countP_cons, hp]
  cases p (change f) <;> simp
  omega

/-- A flow that was pending, and ended. -/
theorem Counted.ends (h : Orderly queue e) (hf : f ∈ e.flows) (hp : f.state = .pending)
    (hc : Flow.Ends change)
    (hsucceeded : sum'.succeeded =
      sum.succeeded + ((change f).isMainIn .success).toNat)
    (hfailed : sum'.failed = sum.failed + ((change f).isMainIn .failed).toNat)
    (hwatches : sum'.watches = sum.watches + (change f).isWatchOver.toNat) :
    Counted e (e.modify f.id change) sum sum' := by
  have hmain : ∀ state : FlowState, state ≠ .pending → f.isMainIn state = false := by
    intro state hne
    rw [Flow.isMainIn, hp, beq_eq_false_iff_ne.mpr hne.symm, Bool.and_false]
  constructor
  case moved =>
    rw [modify, List.forall₂_map_right_iff, List.forall₂_same]
    intro g hg
    split
    · rename_i he
      obtain rfl := h.eq_of_id hg hf he
      exact ⟨hc.id g, hc.watch g, .inr ⟨hp, hc.ended g⟩⟩
    · exact .refl g
  case succeeded =>
    rw [countP_modify h hf (hmain .success (by decide)), hsucceeded]
    omega
  case failed =>
    rw [countP_modify h hf (hmain .failed (by decide)), hfailed]
    omega
  case watches =>
    have hopen : f.isWatchOver = false := by rw [Flow.isWatchOver, hp]; exact Bool.and_false _
    rw [countP_modify h hf hopen, hwatches]
    omega

/-- Whether a flow is a pending watch of a flow that is not over. -/
def Waits (e : Engine) (f : Flow) : Prop :=
  f.state = .pending ∧ ∃ w, f.watch = some w ∧
    ∃ g ∈ e.flows, g.id = w.flow ∧ g.state.isTerminal = false

/-- A watch of a flow that is no watch waits if that was never started. -/
theorem waits_iff_dormant
    (hmains : ∀ g ∈ e.flows, g.watch = none → g.state ≠ .pending ∧ g.state ≠ .running)
    (hapart : ∀ w, f.watch = some w → ∀ g ∈ e.flows, g.id = w.flow → g.watch = none) :
    e.Waits f ↔ f.state = .pending ∧ ∃ w, f.watch = some w ∧
      ∃ g ∈ e.flows, g.id = w.flow ∧ g.state = .dormant := by
  constructor
  · rintro ⟨hp, w, hw, g, hg, hid, hopen⟩
    obtain ⟨hpending, hrunning⟩ := hmains g hg (hapart w hw g hg hid)
    exact ⟨hp, w, hw, g, hg, hid, g.state.eq_dormant hopen hpending hrunning⟩
  · rintro ⟨hp, w, hw, g, hg, hid, hdormant⟩
    exact ⟨hp, w, hw, g, hg, hid, by rw [hdormant]; rfl⟩

end Engine

/-! ## Rounds -/

namespace Worker

variable {σ : Type} (h : Handlers σ) {e e' : Engine} {s s' : σ} {id : Uuid} {queue rest : List Uuid}
  {f : Flow} {fate : Fate}

/-- **One flow of the queue**, as the summary counts it. -/
theorem Fared.counted (ho : e.Orderly (f.id :: rest)) (hf : f ∈ e.flows)
    (hfared : Fared h f e s (.ok fate, e', s')) (sum : Summary) :
    e.Counted e' sum (fate.count sum) := by
  cases hfared with
  | dropped hover => exact .refl e sum
  | requeued hopen hw hg hwaits => exact .refl e sum
  | @finished w g hopen hw hg hended =>
    have hc := ends_finishWatch (h.announce w g.state s).1
    refine .ends ho hf (ho.pending hf List.mem_cons_self hopen) hc ?_ ?_ ?_
    all_goals
      simp only [Fate.count, Flow.isMainIn, Flow.isWatchOver, hc.watch, hc.ended, hw]
      rfl
  | ran hopen hw =>
    refine .ends ho hf (ho.pending hf List.mem_cons_self hopen) (ends_outcome _) ?_ ?_ ?_
    all_goals
      unfold outcome
      split
      all_goals
        simp only [Fate.count, Flow.isMainIn, Flow.isWatchOver, hw]
        rfl

/-- A flow that goes back to the queue waits, and nothing was done. -/
theorem Fared.waits (ho : e.Orderly (f.id :: rest)) (hf : f ∈ e.flows)
    (hfared : Fared h f e s (.ok .requeued, e', s')) : e' = e ∧ s' = s ∧ e.Waits f := by
  cases hfared with
  | requeued hopen hw hg hwaits =>
    obtain ⟨hg, hid⟩ := Engine.mem_of_get hg
    exact ⟨rfl, rfl, ho.pending hf List.mem_cons_self hopen, _, hw, _, hg, hid, hwaits⟩

/-- A flow that waits goes back to the queue. -/
theorem runItem_waits (ho : e.Orderly queue) (hf : f ∈ e.flows) (hwaits : e.Waits f) :
    runItem h f.id e s = (.ok .requeued, e, s) := by
  obtain ⟨hp, w, hw, g, hg, hid, hopen⟩ := hwaits
  have hget : e.get w.flow = .ok g := hid ▸ Engine.get_of_mem ho hg
  have hpending : f.state.isTerminal = false := by rw [hp]; rfl
  simp [runItem, Engine.get_of_mem ho hf, hpending, hw, hget, hopen]

/-- A round over flows that wait does nothing. -/
theorem runRound_waits : ∀ (ids kept : List Uuid) (p : Pass σ), p.engine.Orderly queue →
    (∀ id ∈ ids, ∃ f ∈ p.engine.flows, f.id = id ∧ p.engine.Waits f) →
    runRound h ids kept p = (.ok (kept ++ ids), p)
  | [], kept, p, _, _ => by rw [runRound, List.append_nil]
  | id :: rest, kept, p, ho, hwaits => by
    obtain ⟨f, hf, rfl, hfw⟩ := hwaits id List.mem_cons_self
    rw [runRound, runItem_waits h ho hf hfw]
    have hrest := runRound_waits rest (kept ++ [f.id]) p ho fun u hu =>
      hwaits u (List.mem_cons_of_mem _ hu)
    rw [List.append_assoc] at hrest
    exact hrest

/-- **A round**: what is kept for the next one, and what the summary counts. If all of the queue is
kept, nothing was done, and all of it waits. -/
theorem runRound_counted : ∀ (ids kept : List Uuid) (p : Pass σ),
    p.engine.Orderly (ids ++ kept) →
    ∃ again p', runRound h ids kept p = (.ok (kept ++ again), p') ∧
      p'.engine.Orderly (kept ++ again) ∧ again.Sublist ids ∧
      p.engine.Counted p'.engine p.summary p'.summary ∧
      (again = ids → p' = p ∧ ∀ id ∈ ids, ∃ f ∈ p.engine.flows, f.id = id ∧ p.engine.Waits f)
  | [], kept, p, ho => by
    refine ⟨[], p, ?_, ?_, .slnil, .refl _ _, fun _ => ⟨rfl, nofun⟩⟩
    · rw [runRound, List.append_nil]
    · rwa [List.append_nil]
  | id :: rest, kept, p, ho => by
    have ho : p.engine.Orderly (id :: (rest ++ kept)) := ho
    obtain ⟨fate, e', s', hitem, -, hnext⟩ := runItem_works h (s := p.state) ho
    obtain ⟨f, hf, rfl, -⟩ := ho.known id List.mem_cons_self
    have hfared : Fared h f p.engine p.state (.ok fate, e', s') :=
      hitem ▸ runItem_fared h (Engine.get_of_mem ho hf) (Engine.get_watched ho hf)
    have hcounted := hfared.counted h ho hf p.summary
    rw [runRound, hitem]
    by_cases hfate : fate = .requeued
    · subst hfate
      obtain ⟨rfl, rfl, hwaits⟩ := hfared.waits h ho hf
      obtain ⟨again, p', hround, horder, hsub, hrest, hstuck⟩ :=
        runRound_counted rest (kept ++ [f.id]) p (next_of_fate hnext)
      rw [List.append_assoc] at hround horder
      refine ⟨f.id :: again, p', hround, horder, hsub.cons_cons f.id, hrest, fun hall => ?_⟩
      obtain ⟨rfl, hwait⟩ := hstuck (List.cons.inj hall).2
      refine ⟨rfl, fun u hu => ?_⟩
      rcases List.mem_cons.mp hu with rfl | hu
      · exact ⟨f, hf, rfl, hwaits⟩
      · exact hwait u hu
    · rw [if_neg hfate] at hnext
      obtain ⟨again, p', hround, horder, hsub, hrest, -⟩ := runRound_counted rest kept
        { engine := e', summary := fate.count p.summary, state := s' } hnext
      refine ⟨again, p', ?_, horder, hsub.cons f.id, hcounted.trans hrest, fun hall => ?_⟩
      · simp only [if_neg hfate]
        exact hround
      · -- a flow left the queue, so that what is kept is shorter
        have hlength := hsub.length_le
        rw [hall, List.length_cons] at hlength
        omega

/-- **Rounds** end when all that is left waits. -/
theorem runRounds_counted : ∀ (queue : List Uuid) (p : Pass σ), p.engine.Orderly queue →
    ∃ p', runRounds h queue p = (.ok (), p') ∧ p'.engine.Orderly p'.engine.queue.waiting ∧
      p.engine.Counted p'.engine p.summary p'.summary ∧
      ∀ id ∈ p'.engine.queue.waiting, ∃ f ∈ p'.engine.flows, f.id = id ∧ p'.engine.Waits f
  | queue, p, ho => by
    have hqueue : p.engine.Orderly (queue ++ []) := by rwa [List.append_nil]
    obtain ⟨again, p₁, hround, horder, hsub, hcounted, hstuck⟩ :=
      runRound_counted h queue [] p hqueue
    rw [List.nil_append] at hround horder
    rw [runRounds, hround]
    by_cases hshort : again.length < queue.length
    · obtain ⟨p', hrounds, horder', hcounted', hwaits⟩ := runRounds_counted again p₁ horder
      simp only [if_pos hshort]
      exact ⟨p', hrounds, horder', hcounted.trans hcounted', hwaits⟩
    · simp only [if_neg hshort]
      obtain rfl : again = queue := hsub.eq_of_length_le (Nat.le_of_not_lt hshort)
      obtain ⟨rfl, hwaits⟩ := hstuck rfl
      exact ⟨_, rfl, horder.congr rfl rfl rfl rfl, { hcounted with }, hwaits⟩
termination_by queue => queue.length

end Worker

/-! ## Passes -/

namespace Engine

variable {e e' : Engine} {sum : Summary}

/-- An engine after a pass over `e`, and the summary of the pass. -/
structure Settled (e e' : Engine) (sum : Summary) : Prop where
  /-- The flows are the same, in the same order. -/
  ids : e'.flows.map Flow.id = e.flows.map Flow.id
  /-- No flow but the watches is still to be worked on. -/
  mains : ∀ f ∈ e'.flows, f.watch = none → f.state ≠ .pending ∧ f.state ≠ .running
  queue_nodup : e'.queue.waiting.Nodup
  /-- Those watches are queued that have to wait. -/
  queued : ∀ id, id ∈ e'.queue.waiting ↔ ∃ f ∈ e'.flows, f.id = id ∧ e'.Waits f
  /-- If no watch watches another one, they wait for flows that were never started. -/
  dormant : (∀ f ∈ e'.flows, ∀ w, f.watch = some w → ∀ g ∈ e'.flows, g.id = w.flow →
      g.watch = none) →
    ∀ id, id ∈ e'.queue.waiting ↔ ∃ f ∈ e'.flows, f.id = id ∧ f.state = .pending ∧
      ∃ w, f.watch = some w ∧ ∃ g ∈ e'.flows, g.id = w.flow ∧ g.state = .dormant
  succeeded : sum.succeeded = (e.flows.zip e'.flows).countP (Flow.wentTo .success)
  failed : sum.failed = (e.flows.zip e'.flows).countP (Flow.wentTo .failed)
  watches : sum.watches = (e.flows.zip e'.flows).countP Flow.watchEnded
  left : sum.left = e'.queue.size
  /-- Another pass does nothing, however its handlers would answer. -/
  again : ∀ {τ : Type} (h : Handlers τ) (t : τ), Worker.runUntilIdle h e' t =
    (.ok { succeeded := 0, failed := 0, watches := 0, left := e'.queue.size }, e', t)

end Engine

namespace Worker

variable {σ : Type} (h : Handlers σ) {e : Engine}

/-- **A pass over an engine in order settles it.** -/
theorem settled_of_orderly (ho : e.Orderly e.queue.waiting) (s : σ) :
    ∃ sum e' s', runUntilIdle h e s = (.ok sum, e', s') ∧ e.Settled e' sum := by
  obtain ⟨p, hrounds, horder, hcounted, hall⟩ := runRounds_counted h e.queue.waiting
    { engine := e, summary := { succeeded := 0, failed := 0, watches := 0, left := 0 }, state := s }
    ho
  refine ⟨{ p.summary with left := p.engine.queue.size }, p.engine, p.state, ?_, ?_⟩
  · rw [runUntilIdle, hrounds]
  obtain ⟨hsucceeded, hfailed, hwatches⟩ := hcounted.added
  have hqueued : ∀ id, id ∈ p.engine.queue.waiting ↔
      ∃ f ∈ p.engine.flows, f.id = id ∧ p.engine.Waits f := by
    refine fun id => ⟨hall id, ?_⟩
    rintro ⟨f, hf, rfl, hfw⟩
    exact horder.queued f hf hfw.1
  have hmains : ∀ f ∈ p.engine.flows, f.watch = none → f.state ≠ .pending ∧ f.state ≠ .running := by
    refine fun f hf hmain => ⟨fun hp => ?_, horder.idle f hf⟩
    obtain ⟨g, hg, hid, -, w, hw, -⟩ := hall f.id (horder.queued f hf hp)
    obtain rfl := horder.eq_of_id hg hf hid
    simp [hmain] at hw
  constructor
  case ids => exact map_eq_of_forall₂ hcounted.moved fun _ _ hm => hm.id
  case mains => exact hmains
  case queue_nodup => exact horder.queue_nodup
  case queued => exact hqueued
  case dormant =>
    intro hapart id
    rw [hqueued]
    refine exists_congr fun f => and_congr_right fun hf => and_congr_right fun _ => ?_
    exact Engine.waits_iff_dormant hmains (hapart f hf)
  case succeeded => rw [hsucceeded, Nat.zero_add]
  case failed => rw [hfailed, Nat.zero_add]
  case watches => rw [hwatches, Nat.zero_add]
  case left => rfl
  case again =>
    intro τ h' t
    have hround := runRound_waits h' p.engine.queue.waiting []
      { engine := p.engine, summary := ⟨0, 0, 0, 0⟩, state := t } horder hall
    rw [List.nil_append] at hround
    rw [runUntilIdle, runRounds, hround]
    simp only [Nat.lt_irrefl, if_false]

end Worker

namespace Engine

/-- **Whatever an engine was asked, a pass succeeds and settles it**, however actions are answered and
ends are announced. -/
theorem runUntilIdle_settled (seed : Nat) (rs : List EngineRequest) {σ : Type} (h : Handlers σ)
    (s : σ) : ∃ sum e' s', Worker.runUntilIdle h ((empty seed).after rs) s = (.ok sum, e', s') ∧
      ((empty seed).after rs).Settled e' sum :=
  Worker.settled_of_orderly h (orderly_after rs (.empty seed)).1 s

/-- A flow that is never started is watched, and so is its watch, while another flow is started. -/
def watchedDormant : List EngineRequest :=
  let task : Task :=
    { id := "1", action := "create", params := .null, retry := .standard, dependsOn := none }
  [.submit "import" [task] [], .submitWatch firstWatch,
    .submitWatch { firstWatch with flow := Uuid.drawn 0 .watch 0 }, .submit "import" [task] [],
    .start (Uuid.drawn 0 .flow 1)]

theorem runUntilIdle_settled_watchedDormant :
    (Worker.runUntilIdle { perform := Worker.acceptAll, announce := fun _ _ s => (.ok (), s) }
        ((empty 0).after watchedDormant) ()).1 =
      .ok { succeeded := 1, failed := 0, watches := 0, left := 2 } ∧
    ∃ sum e' s', Worker.runUntilIdle
        { perform := Worker.acceptAll, announce := fun _ _ s => (.ok (), s) }
        ((empty 0).after watchedDormant) () = (.ok sum, e', s') ∧
      ((empty 0).after watchedDormant).Settled e' sum :=
  ⟨by with_unfolding_all rfl, runUntilIdle_settled 0 watchedDormant _ ()⟩

end Engine

end BalancerImport
