import BalancerImport.Proofs.Import.Undoing

/-!
# Executions that are refused too late

The flows of an import are noted in the ledger after they were started. If the ledger refuses that,
the execution fails, but nobody takes back what it submitted.

* `Dispatch.Standing`: locks and a started flow that an import left;
* `Desk.execute_error_cases`: an execution that fails is taken back, or it fails at the last stage;
* **`Desk.execute_unnoted`**: what is left in the two cases, and that a ledger which refuses updates
  tells them apart.
-/

namespace BalancerImport

/-- A dispatch `d` after an import on the dispatch `base` that was not taken back: one of its flows
was started and has a lock. -/
structure Dispatch.Standing (base d : Dispatch LockList) : Prop where
  started : ∃ created, d.engine.flows = base.engine.flows ++ created ∧
    ∃ f ∈ created, f.watch = none ∧ f.state = .pending ∧ f.id ∈ d.engine.queue.waiting ∧
      ∃ k ∈ d.locks.entries, k.owner = f.id
  locks : base.locks.entries.length < d.locks.entries.length

/-- What stands was not taken back. -/
theorem Dispatch.Standing.not_undone {base d : Dispatch LockList} (h : base.Standing d) :
    ¬ base.Undone d := by
  intro hu
  have hlocks := h.locks
  rw [hu.locks] at hlocks
  exact absurd hlocks (Nat.lt_irrefl _)

/-- **An accepted submission of something stands.** -/
theorem Accepted.standing {now : Instant} {base d : Dispatch LockList} {plans : List Plan}
    {ss : List Submitted} {ls : List Launch} (h : Accepted now base plans ss ls d)
    (hne : plans ≠ []) : base.Standing d := by
  obtain ⟨l, rest, rfl⟩ : ∃ l rest, ls = l :: rest := by
    refine List.exists_cons_of_ne_nil ?_
    rintro rfl
    exact hne h.planned.symm
  have hstarted : l.stage = .started := h.head l rfl
  have hlock : l.lock? now = some (l.lock now) := Launch.lock?_of_holds (by rw [hstarted]; rfl)
  have hentries := h.launched.locks
  rw [List.filterMap_cons_some hlock] at hentries
  obtain ⟨begun, hqueue, hbegun⟩ := h.launched.queue
  have hqueued : l.flow ∈ begun := (hbegun l.flow).mpr ⟨l, List.mem_cons_self, hstarted, rfl⟩
  constructor
  case started =>
    refine ⟨_, h.launched.flows, l.main, ?_, l.main_watch, ?_, ?_, l.lock now, ?_, ?_⟩
    · exact List.mem_flatMap.mpr ⟨l, List.mem_cons_self, Launch.mem_flows.mpr (.inl rfl)⟩
    · rw [Launch.main, hstarted]
      rfl
    · rw [hqueue, l.main_id]
      exact List.mem_append_right _ hqueued
    · rw [hentries]
      exact List.mem_append_right _ List.mem_cons_self
    · exact l.main_id.symm
  case locks =>
    rw [hentries, List.length_append, List.length_cons]
    omega

namespace Desk

variable {o : Offer} {ctx : Context} {source : Source} {rs : List o.Record} {w : Written}
  {d d' : Desk MemoryLedger LockList} {e : ImportError}

theorem written?_ne_nil {L K R : Type} [Importable R] [LedgerStore L] {offer : Capability R}
    {rs executable : List R} {d : Desk L K}
    (h : d.written? offer ctx source rs = some (executable, w)) : executable ≠ [] := by
  unfold written? at h
  split at h
  · exact nomatch h
  · dsimp only at h
    split at h
    · exact nomatch h
    · rename_i hsome
      split at h
      · exact nomatch h
      · obtain ⟨rfl, -⟩ := Prod.mk.inj (Option.some.inj h)
        simpa using hsome

/-- Plans that divide what was written are not none. -/
theorem plans_ne_nil {executable : List o.Record} {ledger ledger' : MemoryLedger}
    (hw : w.Adds ctx source executable ledger ledger') (hne : executable ≠ []) {plans : List Plan}
    (hplans : Partitions (w.items.zip executable) plans) : plans ≠ [] := by
  rintro rfl
  have hsnd : (w.items.zip executable).map Prod.snd = executable :=
    List.map_snd_zip (Nat.le_of_eq hw.length.symm)
  cases hzip : w.items.zip executable with
  | nil => exact hne (by rw [← hsnd, hzip]; rfl)
  | cons item rest =>
    have hitem : item ∈ w.items.zip executable := by
      rw [hzip]
      exact List.mem_cons_self
    obtain ⟨p, hp, -⟩ := hplans.exists_plan hitem
    exact nomatch hp

/-- What a desk answers to a submission does not depend on its ledger. -/
theorem submit_fst {L K R : Type} [LockStore K] [Importable R] (offer : Capability R)
    (ctx : Context) (w : Written) (rs : List R) (d : Desk L K) (ledger : L) (n : Nat) :
    ({ d with ledger := ledger, lookups := n }.submit offer ctx w rs).1 =
      (d.submit offer ctx w rs).1 := by
  simp only [submit]
  cases ensureAllFree d.dispatch.locks (wantedResources rs) with
  | error e => rfl
  | ok _ => cases offer.compile ctx d.limits (w.items.zip rs) <;> rfl

/-- **An execution that fails is taken back**, as far as the engine and the locks go, or it fails at
the last stage, where its flows were submitted and the ledger does not note them. -/
theorem execute_error_cases (ho : o ∈ Offer.all) (hl : d.ledger.Fresh)
    (hb : d.dispatch.engine.Fresh) (h : d.execute o.capability ctx source rs = (.error e, d')) :
    (d.dispatch.Undone d'.dispatch ∧ ∀ executable w,
      d.written? o.capability ctx source rs = some (executable, w) →
        ∃ cause, (d.submit o.capability ctx w executable).1 = .error cause) ∨
    ∃ executable w ss, d.written? o.capability ctx source rs = some (executable, w) ∧
      (d.submit o.capability ctx w executable).1 = .ok ss ∧
      w.Adds ctx source executable d.ledger d'.ledger ∧ d.dispatch.Standing d'.dispatch ∧
      d.ledger.refusesUpdates = true ∧ e = .store (.refused "update_task_items") := by
  obtain ⟨n, ⟨hnone, rfl⟩ | ⟨-, -, hnone, -, -, rfl⟩ | ⟨executable, w, ledger, hsome, hwrite, hlaunch⟩⟩ :=
    execute_error h
  · exact .inl ⟨.refl _, fun _ _ hw => nomatch hnone.symm.trans hw⟩
  · exact .inl ⟨.refl _, fun _ _ hw => nomatch hnone.symm.trans hw⟩
  have hadds : w.Adds ctx source executable d.ledger ledger := Written.write_ok hl hwrite
  have hanswer := submit_fst o.capability ctx w executable d ledger n
  rcases launch_error hlaunch with ⟨cause, d₁, hsubmit, hcompensate⟩ |
    ⟨ss, d₁, ledger', hsubmit, hattach, rfl⟩
  · obtain ⟨ls, hls, hall, hd₁⟩ :=
      submit_error (d := { d with ledger := ledger, lookups := n }) ho hb hsubmit
    have hledger : d₁.ledger = ledger := by rw [hd₁]
    obtain ⟨hdispatch, -⟩ := compensate_cases (hledger ▸ hadds) hcompensate
    refine .inl ⟨hdispatch ▸ hls.undone fun l hl => (hall l hl).2, fun executable' w' hw => ?_⟩
    obtain ⟨rfl, rfl⟩ := Prod.mk.inj (Option.some.inj (hsome.symm.trans hw))
    exact ⟨cause, hanswer.symm.trans (congrArg Prod.fst hsubmit)⟩
  · obtain ⟨plans, ls, hplans, hls, hd₁⟩ :=
      submit_ok (d := { d with ledger := ledger, lookups := n }) ho hb hsubmit
    have hledger : d₁.ledger = ledger := by rw [hd₁]
    rw [hledger] at hattach
    -- noting flows fails only where updates are refused
    have hu : d.ledger.refusesUpdates = true := by
      rw [← Bool.not_eq_false]
      intro hu
      rw [Written.attach_ok hadds hu (items_of_submitted hplans hls)] at hattach
      exact nomatch congrArg Prod.fst hattach
    rw [Written.attach_eq_of_refused (hadds.refusesUpdates.trans hu)] at hattach
    obtain ⟨he, rfl⟩ := Prod.mk.inj hattach
    exact .inr ⟨executable, w, ss, hsome, hanswer.symm.trans (congrArg Prod.fst hsubmit), hadds,
      hls.standing (plans_ne_nil hadds (written?_ne_nil hsome) hplans), hu,
      (Except.error.inj he).symm⟩

/-- **What an execution that fails leaves of engine and locks.** Either it is taken back, or it
stands: then the ledger refuses updates, the error says so, and the job and its items are left
without flows. It stands precisely if the ledger refuses updates and the flows for what was written
could be submitted. -/
theorem execute_unnoted (ho : o ∈ Offer.all) (hl : d.ledger.Fresh) (hb : d.dispatch.engine.Fresh)
    (h : d.execute o.capability ctx source rs = (.error e, d')) :
    (d.dispatch.Undone d'.dispatch ∨ d.dispatch.Standing d'.dispatch) ∧
    (d.dispatch.Standing d'.dispatch →
      d.ledger.refusesUpdates = true ∧ e = .store (.refused "update_task_items") ∧
      ∃ (executable : List o.Record) (w : Written),
        w.Adds ctx source executable d.ledger d'.ledger) ∧
    (d.dispatch.Standing d'.dispatch ↔ d.ledger.refusesUpdates = true ∧
      ∃ executable w ss, d.written? o.capability ctx source rs = some (executable, w) ∧
        (d.submit o.capability ctx w executable).1 = .ok ss) := by
  rcases execute_error_cases ho hl hb h with ⟨hundone, hrefused⟩ |
    ⟨executable, w, ss, hsome, hsubmit, hadds, hstands, hu, he⟩
  · have hnot : ¬ d.dispatch.Standing d'.dispatch := fun hs => hs.not_undone hundone
    refine ⟨.inl hundone, fun hs => absurd hs hnot, fun hs => absurd hs hnot, ?_⟩
    rintro ⟨-, executable, w, ss, hsome, hsubmit⟩
    obtain ⟨cause, hcause⟩ := hrefused executable w hsome
    exact nomatch hcause.symm.trans hsubmit
  · exact ⟨.inr hstands, fun _ => ⟨hu, he, executable, w, hadds⟩,
      fun _ => ⟨hu, executable, w, ss, hsome, hsubmit⟩, fun _ => hstands⟩

/-! ## A ledger that refuses updates -/

/-- A desk that was never used, with a ledger that refuses updates. -/
def sampleRefusing : Desk MemoryLedger LockList :=
  { sample none false with ledger := { MemoryLedger.empty 0 with refusesUpdates := true } }

theorem execute_unnoted_refusing : ∃ e d',
    sampleRefusing.execute listenerCapability sampleContext .excel sampleRecords = (.error e, d') ∧
      sampleRefusing.dispatch.Standing d'.dispatch ∧
      ∃ (executable : List ListenerRecord) (w : Written),
        w.Adds sampleContext .excel executable sampleRefusing.ledger d'.ledger := by
  have hrefused : (sampleRefusing.execute listenerCapability sampleContext .excel
      sampleRecords).1 = .error (.store (.refused "update_task_items")) := by decide +kernel
  have hlocks : (sampleRefusing.execute listenerCapability sampleContext .excel
      sampleRecords).2.dispatch.locks.entries.length = 2 := by decide +kernel
  obtain ⟨hundone | hstands, hleft, -⟩ := execute_unnoted (o := .listeners) (d := sampleRefusing)
    List.mem_cons_self ⟨.nil, .nil⟩ ⟨.nil, .nil⟩ (Prod.ext hrefused rfl)
  · have hsame := congrArg (fun locks => locks.entries.length) hundone.locks
    exact absurd (hlocks.symm.trans hsame) (by decide)
  · exact ⟨_, _, Prod.ext hrefused rfl, hstands, (hleft hstands).2.2⟩

/-- **An execution that fails may leave flows that run.** The ledger refuses to note the two flows
of the import; both are queued and hold their locks when the error is answered. -/
theorem execute_error_runs : ∃ e d',
    sampleRefusing.execute listenerCapability sampleContext .excel sampleRecords = (.error e, d') ∧
      d'.dispatch.locks ≠ sampleRefusing.dispatch.locks ∧
      d'.dispatch.locks.entries.map ResourceLock.owner = [⟨2⟩, ⟨6⟩] ∧
      d'.dispatch.engine.queue.waiting = [⟨3⟩, ⟨7⟩, ⟨2⟩, ⟨6⟩] ∧
      (d'.dispatch.engine.flows.map fun f => (f.id, f.state)) =
        [(⟨2⟩, .pending), (⟨3⟩, .pending), (⟨6⟩, .pending), (⟨7⟩, .pending)] := by
  have hrefused : (sampleRefusing.execute listenerCapability sampleContext .excel
      sampleRecords).1 = .error (.store (.refused "update_task_items")) := by decide +kernel
  exact ⟨_, _, Prod.ext hrefused rfl, by decide +kernel, by decide +kernel, by decide +kernel,
    by decide +kernel⟩

end Desk

end BalancerImport
