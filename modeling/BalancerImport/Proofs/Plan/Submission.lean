import BalancerImport.Proofs.Plan.Staging

/-!
# Submitting plans

What the two phases of a submission leave behind, as launches added to the dispatch of the
beginning.

* `Launched.prepare_ok`, `Launched.prepareAll_ok`: the first phase prepares every plan;
* `Launched.abandon`, `Launched.startRest`: launches that are taken back or started;
* `Accepted`: every plan is launched, the first flow started and every other one started or retired;
* **`Dispatch.submitAll_ok`**: what a submission that is accepted leaves behind;
* **`Dispatch.submitAll_error`**: a refused submission leaves nothing but retired flows.
-/

namespace BalancerImport

namespace Launched

variable {now : Instant} {base d d' : Dispatch LockList} {ls : List Launch} {l : Launch}
  {e : ImportError} {s : Submitted} {reason : String} {p : Plan}

/-! ## The first phase -/

theorem map_assign_last (h : Launched now base (ls ++ [l]) d) (σ : Uuid → Stage) :
    (ls ++ [l]).map (Launch.assign [l.flow] σ) = ls ++ [{ l with stage := σ l.flow }] := by
  have hnodup := h.drawn.flow_nodup
  rw [List.map_append, List.nodup_append] at hnodup
  rw [List.map_append, List.map_singleton, Launch.assign_of_mem (by simp)]
  congr 1
  refine map_eq_self fun l' hl' => Launch.assign_of_not_mem ?_
  rw [List.mem_singleton]
  exact hnodup.2.2 l'.flow (List.mem_map_of_mem hl') l.flow (by simp)

theorem not_started_of_prepared (hs : ∀ l ∈ ls, l.stage = .prepared) (hl : l.stage = .submitted) :
    ∀ l' ∈ ls ++ [l], l'.stage ≠ .started := by
  refine List.forall_mem_append.mpr ⟨fun l' hl' => ?_, List.forall_mem_singleton.mpr ?_⟩
  · simp [hs l' hl']
  · simp [hl]

theorem prepare_ok (h : Launched now base ls d) (hs : ∀ l ∈ ls, l.stage = .prepared)
    (hok : d.prepare now p = (.ok s, d')) :
    ∃ l, Launched now base (ls ++ [l]) d' ∧ l.plan = p ∧ l.stage = .prepared ∧
      l.receipt? = some s := by
  unfold Dispatch.prepare at hok
  split at hok
  · simp at hok
  · rename_i flow engine hsubmit
    have h₁ := h.submit hsubmit
    split at hok
    · simp at hok
    · rename_i watch engine' hwatch
      have h₂ := h₁.watch rfl (not_started_of_prepared hs rfl) hwatch
      split at hok
      · simp at hok
      · rename_i locks hacquire
        simp only [Prod.mk.injEq, Except.ok.injEq] at hok
        obtain ⟨rfl, rfl⟩ := hok
        exact ⟨_, h₂.acquire rfl rfl hacquire, rfl, rfl, rfl⟩

theorem prepare_error (h : Launched now base ls d) (hb : base.engine.Fresh)
    (hs : ∀ l ∈ ls, l.stage = .prepared) (herr : d.prepare now p = (.error e, d')) :
    ∃ new, Launched now base (ls ++ new) d' ∧
      ∀ l ∈ new, l.plan = p ∧ ∃ reason, l.stage = .retired reason := by
  unfold Dispatch.prepare at herr
  split at herr
  · rename_i engine hsubmit
    obtain rfl := Engine.submit_error hsubmit
    obtain rfl := (congrArg Prod.snd herr).symm
    exact ⟨[], by simpa using h, by simp⟩
  · rename_i flow engine hsubmit
    have h₁ := h.submit hsubmit
    split at herr
    · rename_i engine' hwatch
      obtain rfl := Engine.submitWatch_error hwatch
      obtain rfl := (congrArg Prod.snd herr).symm
      have h₂ := h₁.cancel hb (List.mem_append_right _ (List.mem_singleton_self _)) rfl
        "vigilancia no enviada"
      rw [h₁.map_assign_last] at h₂
      exact ⟨_, h₂, by simp⟩
    · rename_i watch engine' hwatch
      have h₂ := h₁.watch rfl (not_started_of_prepared hs rfl) hwatch
      split at herr
      · rename_i locks hacquire
        obtain rfl := Lock.acquire_error hacquire
        obtain rfl := (congrArg Prod.snd herr).symm
        have h₃ := h₂.cancel hb (List.mem_append_right _ (List.mem_singleton_self _)) rfl
          "recurso ocupado"
        rw [h₂.map_assign_last] at h₃
        exact ⟨_, h₃, by simp⟩
      · simp at herr

/-! ## Taking launches back and starting them -/

/-- The flows that were handed out are those of prepared launches. -/
def Prepared (ls : List Launch) (ss : List Submitted) : Prop :=
  ∀ s ∈ ss, ∃ l ∈ ls, l.stage = .prepared ∧ l.receipt? = some s

theorem Prepared.rest {ss : List Submitted} {stage : Stage} (h : Prepared ls (s :: ss))
    (hnodup : ((s :: ss).map Submitted.flow).Nodup) :
    Prepared (ls.map (Launch.assign [s.flow] fun _ => stage)) ss := by
  intro t ht
  obtain ⟨l, hl, hst, hr⟩ := h t (List.mem_cons_of_mem _ ht)
  have hne : l.flow ∉ [s.flow] := by
    rw [List.mem_singleton, ← (Launch.eq_of_receipt? hr).1]
    rintro he
    exact (List.nodup_cons.mp hnodup).1 (List.mem_map.mpr ⟨t, ht, he⟩)
  exact ⟨l, List.mem_map.mpr ⟨l, hl, Launch.assign_of_not_mem hne⟩, hst, hr⟩

theorem map_assign_nil {σ : Uuid → Stage} : ls.map (Launch.assign [] σ) = ls :=
  map_eq_self fun l _ => Launch.assign_nil l

theorem map_assign_cons {ids : List Uuid} {id : Uuid} {stage : Stage} {σ : Uuid → Stage}
    (hid : id ∉ ids) : (ls.map (Launch.assign [id] fun _ => stage)).map (Launch.assign ids σ) =
      ls.map (Launch.assign (id :: ids) fun u => if u = id then stage else σ u) := by
  rw [List.map_map]
  exact List.map_congr_left fun l _ => Launch.assign_assign hid l

/-- **Abandoning prepared launches retires them all.** -/
theorem abandon (hb : base.engine.Fresh) (reason : String) : ∀ (ss : List Submitted)
    {ls : List Launch} {d : Dispatch LockList}, Launched now base ls d → Prepared ls ss →
    (ss.map Submitted.flow).Nodup →
    Launched now base (ls.map (Launch.assign (ss.map Submitted.flow) fun _ => .retired reason))
      (d.abandon reason ss)
  | [], ls, d, h, _, _ => by rwa [List.map_nil, map_assign_nil]
  | s :: ss, ls, d, h, hp, hnodup => by
    obtain ⟨l, hl, hst, hr⟩ := hp s List.mem_cons_self
    obtain ⟨hflow, -, hkey, -⟩ := Launch.eq_of_receipt? hr
    have h₁ := h.retire hb hl hst reason
    rw [← hflow, ← hkey] at h₁
    have h₂ := abandon hb reason ss h₁ (hp.rest hnodup) (List.nodup_cons.mp hnodup).2
    rw [map_assign_cons (List.nodup_cons.mp hnodup).1] at h₂
    simpa [Dispatch.abandon] using h₂

/-- **The launches after the first are started or retired, each by itself.** -/
theorem startRest (hb : base.engine.Fresh) : ∀ (ss : List Submitted) {ls : List Launch}
    {d : Dispatch LockList}, Launched now base ls d → Prepared ls ss →
    (ss.map Submitted.flow).Nodup → ∃ σ : Uuid → Stage, (∀ u, (σ u).IsFinal) ∧
      Launched now base (ls.map (Launch.assign (ss.map Submitted.flow) σ)) (d.startRest ss)
  | [], ls, d, h, _, _ =>
    ⟨fun _ => .started, fun _ => .inl rfl, by rwa [List.map_nil, map_assign_nil]⟩
  | s :: ss, ls, d, h, hp, hnodup => by
    obtain ⟨l, hl, hst, hr⟩ := hp s List.mem_cons_self
    obtain ⟨hflow, -⟩ := Launch.eq_of_receipt? hr
    obtain ⟨hid, hrest⟩ := List.nodup_cons.mp hnodup
    -- whatever becomes of the first launch, the rest is as before
    have hnext : ∀ {stage : Stage} {d₁ : Dispatch LockList}, stage.IsFinal →
        Launched now base (ls.map (Launch.assign [s.flow] fun _ => stage)) d₁ →
        ∃ σ : Uuid → Stage, (∀ u, (σ u).IsFinal) ∧
          Launched now base (ls.map (Launch.assign ((s :: ss).map Submitted.flow) σ))
            (d₁.startRest ss) := by
      intro stage d₁ hfinal h₁
      obtain ⟨σ, hσ, h₂⟩ := startRest hb ss h₁ (hp.rest hnodup) hrest
      rw [map_assign_cons hid] at h₂
      refine ⟨_, fun u => ?_, h₂⟩
      by_cases he : u = s.flow
      · rwa [if_pos he]
      · rw [if_neg he]
        exact hσ u
    unfold Dispatch.startRest
    split
    · rename_i engine hok
      rw [hflow] at hok
      have h₁ := h.start hb hl hst hok
      rw [← hflow] at h₁
      exact hnext (.inl rfl) h₁
    · rename_i error engine herr
      have h₁ := (h.start_error herr).abandon hb "arranque fallido" [s]
        (fun t ht => ⟨l, hl, hst, by rw [hr, List.mem_singleton.mp ht]⟩) (by simp)
      exact hnext (.inr ⟨_, rfl⟩) h₁

/-! ## All plans -/

theorem mem_flow_of_receipts {ss : List Submitted} (hr : ls.map Launch.receipt? = ss.map some)
    (hl : l ∈ ls) : l.flow ∈ ss.map Submitted.flow := by
  rw [Launch.map_flow_of_receipts hr]
  exact List.mem_map_of_mem hl

/-- All flows of prepared launches were handed out, in order. -/
theorem Prepared.of_receipts {ss : List Submitted} (hs : ∀ l ∈ ls, l.stage = .prepared)
    (hr : ls.map Launch.receipt? = ss.map some) : Prepared ls ss := by
  intro s hs'
  have hm : some s ∈ ls.map Launch.receipt? := hr ▸ List.mem_map_of_mem hs'
  obtain ⟨l, hl, he⟩ := List.mem_map.mp hm
  exact ⟨l, hl, hs l hl, he⟩

theorem nodup_of_receipts {ss : List Submitted} (h : Launched now base ls d)
    (hr : ls.map Launch.receipt? = ss.map some) : (ss.map Submitted.flow).Nodup := by
  rw [Launch.map_flow_of_receipts hr]
  exact h.drawn.flow_nodup

theorem prepareAll_ok : ∀ (plans : List Plan) {ss ss' : List Submitted} {ls : List Launch}
    {d : Dispatch LockList}, Launched now base ls d → (∀ l ∈ ls, l.stage = .prepared) →
    ls.map Launch.receipt? = ss.map some → d.prepareAll now ss plans = (.ok ss', d') →
    ∃ ls', Launched now base ls' d' ∧ ls'.map Launch.plan = ls.map Launch.plan ++ plans ∧
      (∀ l ∈ ls', l.stage = .prepared) ∧ ls'.map Launch.receipt? = ss'.map some
  | [], ss, ss', ls, d, h, hs, hr, hok => by
    simp only [Dispatch.prepareAll, Prod.mk.injEq, Except.ok.injEq] at hok
    obtain ⟨rfl, rfl⟩ := hok
    exact ⟨ls, h, by simp, hs, hr⟩
  | p :: plans, ss, ss', ls, d, h, hs, hr, hok => by
    unfold Dispatch.prepareAll at hok
    split at hok
    · simp at hok
    · rename_i s d₁ hprepare
      obtain ⟨l, h₁, hplan, hst, hl⟩ := h.prepare_ok hs hprepare
      have hs₁ : ∀ l' ∈ ls ++ [l], l'.stage = .prepared :=
        List.forall_mem_append.mpr ⟨hs, List.forall_mem_singleton.mpr hst⟩
      obtain ⟨ls', h₂, hplans, hs₂, hr₂⟩ :=
        prepareAll_ok plans h₁ hs₁ (by simp [hr, hl]) hok
      exact ⟨ls', h₂, by simpa [hplan] using hplans, hs₂, hr₂⟩

theorem prepareAll_error (hb : base.engine.Fresh) : ∀ (plans : List Plan) {ss : List Submitted}
    {ls : List Launch} {d : Dispatch LockList}, Launched now base ls d →
    (∀ l ∈ ls, l.stage = .prepared) → ls.map Launch.receipt? = ss.map some →
    d.prepareAll now ss plans = (.error e, d') →
    ∃ ls', Launched now base ls' d' ∧
      ∀ l ∈ ls', l.plan ∈ ls.map Launch.plan ++ plans ∧ ∃ reason, l.stage = .retired reason
  | [], ss, ls, d, _, _, _, herr => by simp [Dispatch.prepareAll] at herr
  | p :: plans, ss, ls, d, h, hs, hr, herr => by
    unfold Dispatch.prepareAll at herr
    split at herr
    · rename_i d₁ hprepare
      obtain rfl := (congrArg Prod.snd herr).symm
      obtain ⟨new, h₁, hnew⟩ := h.prepare_error hb hs hprepare
      have hp : Prepared (ls ++ new) ss := fun s hs' => by
        obtain ⟨l, hl, he⟩ := Prepared.of_receipts hs hr s hs'
        exact ⟨l, List.mem_append_left _ hl, he⟩
      refine ⟨_, h₁.abandon hb "envío del job abortado" ss hp (h.nodup_of_receipts hr),
        fun l hm => ?_⟩
      obtain ⟨l, hl, rfl⟩ := List.mem_map.mp hm
      rw [Launch.assign_plan]
      rcases List.mem_append.mp hl with hl | hl
      · refine ⟨List.mem_append_left _ (List.mem_map_of_mem hl), "envío del job abortado", ?_⟩
        rw [Launch.assign_of_mem (mem_flow_of_receipts hr hl)]
      · obtain ⟨hplan, hretired⟩ := hnew l hl
        refine ⟨List.mem_append_right _ (by simp [hplan]), ?_⟩
        by_cases hm : l.flow ∈ ss.map Submitted.flow
        · exact ⟨_, by rw [Launch.assign_of_mem hm]⟩
        · rwa [Launch.assign_of_not_mem hm]
    · rename_i s d₁ hprepare
      obtain ⟨l, h₁, hplan, hst, hl⟩ := h.prepare_ok hs hprepare
      have hs₁ : ∀ l' ∈ ls ++ [l], l'.stage = .prepared :=
        List.forall_mem_append.mpr ⟨hs, List.forall_mem_singleton.mpr hst⟩
      obtain ⟨ls', h₂, hall⟩ := prepareAll_error hb plans h₁ hs₁ (by simp [hr, hl]) herr
      exact ⟨ls', h₂, fun l' hl' => by simpa [hplan] using hall l' hl'⟩

theorem startAll_ok (h : Launched now base ls d) (hb : base.engine.Fresh) {ss : List Submitted}
    (hs : ∀ l ∈ ls, l.stage = .prepared) (hr : ls.map Launch.receipt? = ss.map some)
    (hok : d.startAll ss = (.ok (), d')) :
    ∃ ls', Launched now base ls' d' ∧ ls'.map Launch.plan = ls.map Launch.plan ∧
      ls'.map Launch.receipt? = ss.map some ∧ (∀ l ∈ ls', l.stage.IsFinal) ∧
      ∀ l, ls'.head? = some l → l.stage = .started := by
  unfold Dispatch.startAll at hok
  split at hok
  · obtain rfl := (congrArg Prod.snd hok).symm
    obtain rfl : ls = [] := by simpa using hr
    exact ⟨[], h, rfl, rfl, by simp, by simp⟩
  · rename_i s rest
    have hnodup := h.nodup_of_receipts hr
    have hp := Prepared.of_receipts hs hr
    obtain ⟨hid, hrest⟩ := List.nodup_cons.mp hnodup
    cases ls with
    | nil => simp at hr
    | cons l ls =>
      have hst := hs l List.mem_cons_self
      obtain ⟨hrl, -⟩ := List.cons.inj hr
      obtain ⟨hflow, -⟩ := Launch.eq_of_receipt? hrl
      split at hok
      · rename_i engine hstart
        obtain rfl := (congrArg Prod.snd hok).symm
        rw [hflow] at hstart
        have h₁ := h.start hb List.mem_cons_self hst hstart
        rw [← hflow] at h₁
        obtain ⟨σ, hσ, h₂⟩ := h₁.startRest hb rest (hp.rest hnodup) hrest
        rw [map_assign_cons hid] at h₂
        refine ⟨_, h₂, by simp [Function.comp_def], ?_, fun l' hl' => ?_, fun l' hl' => ?_⟩
        · rw [← hr]
          simp [Function.comp_def]
        · obtain ⟨l', hmem, rfl⟩ := List.mem_map.mp hl'
          have hm := mem_flow_of_receipts hr hmem
          rw [List.map_cons] at hm
          rw [Launch.assign_of_mem hm]
          show Stage.IsFinal (if l'.flow = s.flow then .started else σ l'.flow)
          by_cases he : l'.flow = s.flow
          · rw [if_pos he]
            exact .inl rfl
          · rw [if_neg he]
            exact hσ _
        · obtain rfl := Option.some.inj hl'
          rw [Launch.assign_of_mem (by simp [hflow])]
          simp [hflow]
      · simp at hok

theorem startAll_error (h : Launched now base ls d) (hb : base.engine.Fresh) {ss : List Submitted}
    (hs : ∀ l ∈ ls, l.stage = .prepared) (hr : ls.map Launch.receipt? = ss.map some)
    (herr : d.startAll ss = (.error e, d')) :
    ∃ ls', Launched now base ls' d' ∧
      ∀ l ∈ ls', l.plan ∈ ls.map Launch.plan ∧ ∃ reason, l.stage = .retired reason := by
  unfold Dispatch.startAll at herr
  split at herr
  · simp at herr
  · rename_i s rest
    split at herr
    · simp at herr
    · rename_i error engine hstart
      obtain rfl := (congrArg Prod.snd herr).symm
      have h₁ := (h.start_error hstart).abandon hb "arranque fallido" (s :: rest)
        (Prepared.of_receipts hs hr) (h.nodup_of_receipts hr)
      refine ⟨_, h₁, fun l hm => ?_⟩
      obtain ⟨l, hl, rfl⟩ := List.mem_map.mp hm
      rw [Launch.assign_plan]
      refine ⟨List.mem_map_of_mem hl, "arranque fallido", ?_⟩
      rw [Launch.assign_of_mem (mem_flow_of_receipts hr hl)]

end Launched

/-! ## Both phases -/

/-- An accepted submission of plans to the dispatch `base`: each plan is launched, in order; the
first flow is started, and every other one is started or retired. -/
structure Accepted (now : Instant) (base : Dispatch LockList) (plans : List Plan)
    (ss : List Submitted) (ls : List Launch) (d : Dispatch LockList) : Prop where
  launched : Launched now base ls d
  planned : ls.map Launch.plan = plans
  receipts : ls.map Launch.receipt? = ss.map some
  final : ∀ l ∈ ls, l.stage.IsFinal
  head : ∀ l, ls.head? = some l → l.stage = .started
  chained : ∀ p ∈ plans, checkChain p.tasks = .ok ()

theorem Accepted.plan_mem {now : Instant} {base d : Dispatch LockList} {plans : List Plan}
    {ss : List Submitted} {ls : List Launch} {l : Launch} (h : Accepted now base plans ss ls d)
    (hl : l ∈ ls) : l.plan ∈ plans := h.planned ▸ List.mem_map_of_mem hl

namespace Dispatch

variable {now : Instant} {d d' : Dispatch LockList} {plans : List Plan}

theorem prepareAll_chained : ∀ {plans : List Plan} {ss ss' : List Submitted}
    {d : Dispatch LockList}, d.prepareAll now ss plans = (.ok ss', d') →
    ∀ p ∈ plans, checkChain p.tasks = .ok ()
  | [], _, _, _, _ => by simp
  | p :: plans, ss, ss', d, h => by
    unfold prepareAll at h
    split at h
    · simp at h
    · rename_i s d₁ hprepare
      intro q hq
      rcases List.mem_cons.mp hq with rfl | hq
      · unfold prepare at hprepare
        split at hprepare
        · simp at hprepare
        · rename_i hsubmit
          exact Engine.submit_checked hsubmit
      · exact prepareAll_chained h q hq

/-- **A submission that is accepted launches every plan.** -/
theorem submitAll_ok (hb : d.engine.Fresh) {ss : List Submitted}
    (hok : d.submitAll now plans = (.ok ss, d')) : ∃ ls, Accepted now d plans ss ls d' := by
  unfold submitAll at hok
  split at hok
  · simp at hok
  · rename_i submitted d₁ hprepare
    obtain ⟨ls, h₁, hplans, hs, hr⟩ :=
      Launched.prepareAll_ok plans (.refl now d) (by simp) rfl hprepare
    split at hok
    · simp at hok
    · rename_i hstart
      simp only [Prod.mk.injEq, Except.ok.injEq] at hok
      obtain ⟨rfl, rfl⟩ := hok
      obtain ⟨ls', h₂, hplans', hr', hfinal, hhead⟩ := h₁.startAll_ok hb hs hr hstart
      exact ⟨ls', h₂, hplans'.trans hplans, hr', hfinal, hhead, prepareAll_chained hprepare⟩

/-- **A refused submission leaves nothing but retired launches.** -/
theorem submitAll_error (hb : d.engine.Fresh) {e : ImportError}
    (herr : d.submitAll now plans = (.error e, d')) :
    ∃ ls, Launched now d ls d' ∧
      ∀ l ∈ ls, l.plan ∈ plans ∧ ∃ reason, l.stage = .retired reason := by
  unfold submitAll at herr
  split at herr
  · rename_i d₁ hprepare
    obtain ⟨-, rfl⟩ := Prod.mk.inj herr
    exact Launched.prepareAll_error hb plans (.refl now d) (by simp) rfl hprepare
  · rename_i submitted d₁ hprepare
    obtain ⟨ls, h₁, hplans, hs, hr⟩ :=
      Launched.prepareAll_ok plans (.refl now d) (by simp) rfl hprepare
    split at herr
    · rename_i hstart
      obtain ⟨-, rfl⟩ := Prod.mk.inj herr
      obtain ⟨ls', h₂, hall⟩ := h₁.startAll_error hb hs hr hstart
      refine ⟨ls', h₂, fun l hl => ?_⟩
      have hplans : ls.map Launch.plan = plans := hplans
      exact hplans ▸ hall l hl
    · simp at herr

end Dispatch

end BalancerImport
