import BalancerImport.Proofs.Check.Length
import BalancerImport.Proofs.Import.Writing
import BalancerImport.Proofs.Plan.Compilation
import BalancerImport.Proofs.Plan.Submission

/-!
# The stages of an execution

An execution validates, writes, compiles, submits and notes flows. Here each stage is taken apart
into what it does if it is accepted and what it leaves if it is not.

* `Desk.validate_eq`: validation changes nothing but the number of listener queries;
* `Desk.submit_ok`, `Desk.submit_error`: launches of plans that divide the records;
* `Desk.written?`: what an execution writes, if it gets that far;
* `Desk.execute_ok`, `Desk.execute_error`: an execution as the stages that it went through;
* **`Desk.execute_launched`**: an execution adds launches that are over to the engine and the locks;
* `Desk.fresh_execute`: and it leaves a ledger whose identifiers are still to be drawn.
-/

namespace BalancerImport.Desk

section

variable {L K R : Type} [Importable R] {offer : Capability R} {ctx : Context} {source : Source}
  {rs : List R}

/-- Validation asks the cloud, and changes nothing but the number of its queries. -/
theorem validate_eq (rules : VendorRules R) (ctx : Context) (rs : List R) (d : Desk L K) :
    ∃ n, (d.validate rules ctx rs).2 = { d with lookups := n } := ⟨_, rfl⟩

theorem length_validate {rules : VendorRules R} {d : Desk L K} {validated : List R}
    (h : (d.validate rules ctx rs).1 = .ok validated) : validated.length = rs.length := by
  simp only [validate] at h
  cases hv : (validateRecords rules ctx d.cloud rs).1 with
  | error e => rw [hv] at h; simp [Except.mapError] at h
  | ok answer =>
    rw [hv] at h
    rw [← Except.ok.inj h]
    exact length_validateRecords hv

/-- The records that an execution writes to the ledger, with the job and the items that it writes
for them, if it gets that far. -/
def written? [LedgerStore L] (offer : Capability R) (ctx : Context) (source : Source) (rs : List R)
    (d : Desk L K) : Option (List R × Written) :=
  match (d.validate offer.rules ctx rs).1 with
  | .error _ => none
  | .ok validated =>
    let executable := validated.filter Importable.isExecutable
    if executable.isEmpty then none
    else
      match Written.write ctx source d.now executable d.ledger with
      | (.error _, _) => none
      | (.ok w, _) => some (executable, w)

end

/-! ## Submitting -/

variable {o : Offer} {ctx : Context} {source : Source} {rs : List o.Record} {w : Written}
  {d d' : Desk MemoryLedger LockList} {e : ImportError}

theorem submit_ok (ho : o ∈ Offer.all) (hb : d.dispatch.engine.Fresh) {ss : List Submitted}
    (h : d.submit o.capability ctx w rs = (.ok ss, d')) :
    ∃ plans ls, Partitions (w.items.zip rs) plans ∧
      Accepted d.now d.dispatch plans ss ls d'.dispatch ∧
      d' = { d with dispatch := d'.dispatch } := by
  unfold submit at h
  split at h
  · simp at h
  · split at h
    · simp at h
    · rename_i plans hplans
      obtain ⟨hanswer, rfl⟩ := Prod.mk.inj h
      obtain ⟨ls, hls⟩ := Dispatch.submitAll_ok hb (Prod.ext hanswer rfl)
      exact ⟨plans, ls, Offer.compile_partitions ho hplans, hls, rfl⟩

/-- The flows of an accepted submission work on the items that were written. -/
theorem items_of_submitted {base : Dispatch LockList} {dispatch : Dispatch LockList} {now : Instant}
    {plans : List Plan} {ss : List Submitted} {ls : List Launch}
    (hplans : Partitions (w.items.zip rs) plans) (hls : Accepted now base plans ss ls dispatch) :
    ∀ s ∈ ss, ∀ a ∈ s.itemActions, a.1 ∈ w.items := by
  intro s hs a ha
  have hm : some s ∈ ls.map Launch.receipt? := hls.receipts ▸ List.mem_map_of_mem hs
  obtain ⟨l, hl, hr⟩ := List.mem_map.mp hm
  rw [(Launch.eq_of_receipt? hr).2.2.2] at ha
  have hcarries := hplans.carries _ (hls.planned ▸ List.mem_map_of_mem hl)
  obtain ⟨item, hi, he⟩ := hcarries.item_of_action ha
  rw [← he]
  exact (List.of_mem_zip (List.mem_filter.mp hi).1).1

/-- What was submitted before an error is retired. -/
theorem submit_error (ho : o ∈ Offer.all) (hb : d.dispatch.engine.Fresh)
    (h : d.submit o.capability ctx w rs = (.error e, d')) :
    ∃ ls, Launched d.now d.dispatch ls d'.dispatch ∧
      (∀ l ∈ ls, l.plan.key = .balancer l.plan.lbId ∧ ∃ reason, l.stage = .retired reason) ∧
      d' = { d with dispatch := d'.dispatch } := by
  unfold submit at h
  split at h
  · obtain ⟨-, rfl⟩ := Prod.mk.inj h
    exact ⟨[], .refl _ _, by simp, rfl⟩
  · split at h
    · obtain ⟨-, rfl⟩ := Prod.mk.inj h
      exact ⟨[], .refl _ _, by simp, rfl⟩
    · rename_i plans hplans
      obtain ⟨hanswer, rfl⟩ := Prod.mk.inj h
      obtain ⟨ls, hls, hall⟩ := Dispatch.submitAll_error hb (Prod.ext hanswer rfl)
      refine ⟨ls, hls, fun l hl => ?_, rfl⟩
      obtain ⟨hp, hretired⟩ := hall l hl
      exact ⟨((Offer.compile_partitions ho hplans).carries _ hp).key, hretired⟩

/-- Submitting adds launches that are over. -/
theorem submit_launched (ho : o ∈ Offer.all) (hb : d.dispatch.engine.Fresh) :
    ∃ ls, Launched d.now d.dispatch ls (d.submit o.capability ctx w rs).2.dispatch ∧
      ∀ l ∈ ls, l.plan.key = .balancer l.plan.lbId ∧ l.stage.IsFinal := by
  rcases h : d.submit o.capability ctx w rs with ⟨_ | ss, d'⟩
  · obtain ⟨ls, hls, hall, -⟩ := submit_error ho hb h
    exact ⟨ls, hls, fun l hl => ⟨(hall l hl).1, .inr (hall l hl).2⟩⟩
  · obtain ⟨plans, ls, hplans, hls, -⟩ := submit_ok ho hb h
    refine ⟨ls, hls.launched, fun l hl => ⟨?_, hls.final l hl⟩⟩
    exact (hplans.carries _ (hls.planned ▸ List.mem_map_of_mem hl)).key

/-! ## Executing -/

section

variable {L K R : Type} [Importable R] [LedgerStore L] [LockStore K] {offer : Capability R}
  {rs : List R} {d d' : Desk L K} {total : Nat}

omit [LedgerStore L] in
/-- Submitting leaves the ledger alone. -/
theorem ledger_submit {answer : Except ImportError (List Submitted)}
    (h : d.submit offer ctx w rs = (answer, d')) : d'.ledger = d.ledger := by
  obtain rfl := (congrArg Prod.snd h).symm
  unfold submit
  split
  · rfl
  · split <;> rfl

theorem launch_ok {ss : List Submitted} (h : d.launch offer ctx w rs = (.ok ss, d')) :
    ∃ d₁ ledger, d.submit offer ctx w rs = (.ok ss, d₁) ∧
      w.attach ss d₁.ledger = (.ok (), ledger) ∧ d' = { d₁ with ledger := ledger } := by
  unfold launch at h
  split at h
  · exact nomatch congrArg Prod.fst h
  · rename_i flows d₁ hsubmit
    rcases hattach : w.attach flows d₁.ledger with ⟨_ | _, ledger⟩
    · simp [hattach, Except.map] at h
    · simp only [hattach, Except.map, Prod.mk.injEq, Except.ok.injEq] at h
      obtain ⟨rfl, rfl⟩ := h
      exact ⟨d₁, ledger, hsubmit, hattach, rfl⟩

theorem launch_error (h : d.launch offer ctx w rs = (.error e, d')) :
    (∃ cause d₁, d.submit offer ctx w rs = (.error cause, d₁) ∧
      d₁.compensate w cause = (e, d')) ∨
    ∃ ss d₁ ledger, d.submit offer ctx w rs = (.ok ss, d₁) ∧
      w.attach ss d₁.ledger = (.error e, ledger) ∧ d' = { d₁ with ledger := ledger } := by
  unfold launch at h
  split at h
  · rename_i cause d₁ hsubmit
    simp only [Prod.mk.injEq, Except.error.injEq] at h
    exact .inl ⟨cause, d₁, hsubmit, Prod.ext h.1 h.2⟩
  · rename_i flows d₁ hsubmit
    rcases hattach : w.attach flows d₁.ledger with ⟨_ | _, ledger⟩
    · simp only [hattach, Except.map, Prod.mk.injEq, Except.error.injEq] at h
      obtain ⟨rfl, rfl⟩ := h
      exact .inr ⟨flows, d₁, ledger, hsubmit, hattach, rfl⟩
    · simp [hattach, Except.map] at h

/-- Noting flows and deleting entries leave the engine and the locks alone. -/
theorem launch_dispatch :
    (d.launch offer ctx w rs).2.dispatch = (d.submit offer ctx w rs).2.dispatch := by
  rcases h : d.launch offer ctx w rs with ⟨_ | _, d'⟩
  · rcases launch_error h with ⟨cause, d₁, hsubmit, hcompensate⟩ | ⟨_, _, _, hsubmit, _, rfl⟩
    · obtain rfl := (congrArg Prod.snd hcompensate).symm
      rw [hsubmit]
      unfold compensate
      split <;> rfl
    · rw [hsubmit]
  · obtain ⟨_, _, hsubmit, _, rfl⟩ := launch_ok h
    rw [hsubmit]

/-- **Whatever an execution answers**, it got stuck before it wrote, or while it wrote, or it
launched what it wrote. -/
theorem execute_cases (offer : Capability R) (ctx : Context) (source : Source) (rs : List R)
    (d : Desk L K) : ∃ n,
    (∃ e, d.written? offer ctx source rs = none ∧
      d.execute offer ctx source rs = (.error e, { d with lookups := n })) ∨
    ∃ validated, (d.validate offer.rules ctx rs).1 = .ok validated ∧
      validated.filter Importable.isExecutable ≠ [] ∧
      ((∃ e ledger, d.written? offer ctx source rs = none ∧
        Written.write ctx source d.now (validated.filter Importable.isExecutable) d.ledger =
          (.error e, ledger) ∧
        d.execute offer ctx source rs = (.error e, { d with ledger := ledger, lookups := n })) ∨
      ∃ w ledger answer d',
        d.written? offer ctx source rs = some (validated.filter Importable.isExecutable, w) ∧
        Written.write ctx source d.now (validated.filter Importable.isExecutable) d.ledger =
          (.ok w, ledger) ∧
        { d with ledger := ledger, lookups := n }.launch offer ctx w
          (validated.filter Importable.isExecutable) = (answer, d') ∧
        d.execute offer ctx source rs =
          (answer.map fun ss => Report.of w ss validated.length, d')) := by
  obtain ⟨n, hn⟩ := validate_eq offer.rules ctx rs d
  refine ⟨n, ?_⟩
  cases hv : (d.validate offer.rules ctx rs).1 with
  | error e =>
    have hvalid : d.validate offer.rules ctx rs = (.error e, { d with lookups := n }) :=
      Prod.ext hv hn
    exact .inl ⟨e, by simp only [written?, hv], by simp only [execute, hvalid]⟩
  | ok validated =>
    have hvalid : d.validate offer.rules ctx rs = (.ok validated, { d with lookups := n }) :=
      Prod.ext hv hn
    by_cases hnone : validated.filter Importable.isExecutable = []
    · refine .inl ⟨.nothingExecutable, ?_, ?_⟩
      · simp only [written?, hv, hnone, List.isEmpty_nil, ↓reduceIte]
      · simp only [execute, hvalid, executeValidated, hnone, List.isEmpty_nil, ↓reduceIte]
    · have hsome : (validated.filter Importable.isExecutable).isEmpty = false := by
        rwa [List.isEmpty_eq_false_iff]
      refine .inr ⟨validated, rfl, hnone, ?_⟩
      rcases hwrite : Written.write ctx source d.now (validated.filter Importable.isExecutable)
        d.ledger with ⟨e | w, ledger⟩
      · refine .inl ⟨e, ledger, ?_, rfl, ?_⟩
        · simp only [written?, hv, hwrite, ite_self]
        · simp only [execute, hvalid, executeValidated, hsome, hwrite, Bool.false_eq_true,
            ↓reduceIte]
      · rcases hlaunch : { d with ledger := ledger, lookups := n }.launch offer ctx w
          (validated.filter Importable.isExecutable) with ⟨answer, d'⟩
        refine .inr ⟨w, ledger, answer, d', ?_, rfl, hlaunch, ?_⟩
        · simp only [written?, hv, hsome, hwrite, Bool.false_eq_true, ↓reduceIte]
        · simp only [execute, hvalid, executeValidated, hsome, hwrite, hlaunch, Bool.false_eq_true,
            ↓reduceIte]

/-- An accepted execution writes the records that can be executed, and launches them. -/
theorem execute_ok {report : Report} (h : d.execute offer ctx source rs = (.ok report, d')) :
    ∃ validated w ledger ss n, (d.validate offer.rules ctx rs).1 = .ok validated ∧
      validated.filter Importable.isExecutable ≠ [] ∧
      Written.write ctx source d.now (validated.filter Importable.isExecutable) d.ledger =
        (.ok w, ledger) ∧
      { d with ledger := ledger, lookups := n }.launch offer ctx w
        (validated.filter Importable.isExecutable) = (.ok ss, d') ∧
      report = Report.of w ss validated.length := by
  obtain ⟨n, ⟨e, -, hx⟩ | ⟨validated, hv, hne, ⟨e, ledger, -, -, hx⟩ |
    ⟨w, ledger, answer, d₁, -, hwrite, hlaunch, hx⟩⟩⟩ := execute_cases offer ctx source rs d
  · exact nomatch congrArg Prod.fst (hx.symm.trans h)
  · exact nomatch congrArg Prod.fst (hx.symm.trans h)
  · obtain ⟨hanswer, rfl⟩ := Prod.mk.inj (hx.symm.trans h)
    obtain ⟨ss, rfl, hreport⟩ := map_ok hanswer
    exact ⟨validated, w, ledger, ss, n, hv, hne, hwrite, hlaunch, hreport.symm⟩

/-- A refused execution got stuck before it wrote, while it wrote, or while it launched. -/
theorem execute_error (h : d.execute offer ctx source rs = (.error e, d')) :
    ∃ n, (d.written? offer ctx source rs = none ∧ d' = { d with lookups := n }) ∨
    (∃ (validated : List R) (ledger : L), d.written? offer ctx source rs = none ∧
      (d.validate offer.rules ctx rs).1 = .ok validated ∧
      Written.write ctx source d.now (validated.filter Importable.isExecutable) d.ledger =
        (.error e, ledger) ∧
      d' = { d with ledger := ledger, lookups := n }) ∨
    ∃ (executable : List R) (w : Written) (ledger : L),
      d.written? offer ctx source rs = some (executable, w) ∧
      Written.write ctx source d.now executable d.ledger = (.ok w, ledger) ∧
      { d with ledger := ledger, lookups := n }.launch offer ctx w executable = (.error e, d') := by
  obtain ⟨n, ⟨_, hnone, hx⟩ | ⟨validated, hv, -, ⟨cause, ledger, hnone, hwrite, hx⟩ |
    ⟨w, ledger, answer, d₁, hsome, hwrite, hlaunch, hx⟩⟩⟩ := execute_cases offer ctx source rs d
  · exact ⟨n, .inl ⟨hnone, (congrArg Prod.snd (hx.symm.trans h)).symm⟩⟩
  · obtain ⟨he, rfl⟩ := Prod.mk.inj (hx.symm.trans h)
    obtain rfl := Except.error.inj he
    exact ⟨n, .inr (.inl ⟨validated, ledger, hnone, hv, hwrite, rfl⟩)⟩
  · obtain ⟨hanswer, rfl⟩ := Prod.mk.inj (hx.symm.trans h)
    cases answer with
    | ok ss => exact nomatch hanswer
    | error cause =>
      obtain rfl := Except.error.inj hanswer
      exact ⟨n, .inr (.inr ⟨_, w, ledger, hsome, hwrite, hlaunch⟩)⟩

end

/-- **An execution adds launches that are over to the engine and the locks**, whatever it
answers. -/
theorem execute_launched (ho : o ∈ Offer.all) (hb : d.dispatch.engine.Fresh) :
    ∃ ls, Launched d.now d.dispatch ls (d.execute o.capability ctx source rs).2.dispatch ∧
      ∀ l ∈ ls, l.plan.key = .balancer l.plan.lbId ∧ l.stage.IsFinal := by
  obtain ⟨n, ⟨_, -, hx⟩ | ⟨validated, -, -, ⟨_, ledger, -, -, hx⟩ |
    ⟨w, ledger, _, d₁, -, -, hlaunch, hx⟩⟩⟩ := execute_cases o.capability ctx source rs d
  · rw [hx]
    exact ⟨[], .refl _ _, by simp⟩
  · rw [hx]
    exact ⟨[], .refl _ _, by simp⟩
  · have hdispatch := congrArg (fun p => p.2.dispatch) hlaunch
    rw [hx, ← hdispatch, launch_dispatch]
    exact submit_launched (d := { d with ledger := ledger, lookups := n }) ho hb

/-! ## Fresh identifiers -/

section

variable {R : Type} [Importable R] {offer : Capability R} {rs : List R}

/-- Noting flows and deleting entries keep identifiers fresh. -/
theorem fresh_launch {answer : Except ImportError (List Submitted)} (hd : d.ledger.Fresh)
    (h : d.launch offer ctx w rs = (answer, d')) : d'.ledger.Fresh := by
  cases answer with
  | error e =>
    rcases launch_error h with ⟨cause, d₁, hsubmit, hcompensate⟩ |
      ⟨ss, d₁, ledger, hsubmit, hattach, rfl⟩
    · have hrolled := Written.fresh_rollback (ledger_submit hsubmit ▸ hd) w
      obtain rfl := (congrArg Prod.snd hcompensate).symm
      unfold compensate
      split <;> rename_i hrollback <;> rwa [hrollback] at hrolled
    · have hattached := Written.fresh_attach (ledger_submit hsubmit ▸ hd) w ss
      rwa [hattach] at hattached
  | ok ss =>
    obtain ⟨d₁, ledger, hsubmit, hattach, rfl⟩ := launch_ok h
    have hattached := Written.fresh_attach (ledger_submit hsubmit ▸ hd) w ss
    rwa [hattach] at hattached

/-- **An execution keeps identifiers fresh**, whatever it answers. -/
theorem fresh_execute (hd : d.ledger.Fresh) :
    (d.execute offer ctx source rs).2.ledger.Fresh := by
  obtain ⟨n, ⟨_, -, hx⟩ | ⟨validated, -, -, hwritten⟩⟩ := execute_cases offer ctx source rs d
  · rw [hx]
    exact hd
  · have hwrite := Written.fresh_write hd ctx source d.now
      (validated.filter Importable.isExecutable)
    rcases hwritten with ⟨_, ledger, -, he, hx⟩ | ⟨w, ledger, _, d₁, -, he, hlaunch, hx⟩
    · rw [he] at hwrite
      rwa [hx]
    · rw [he] at hwrite
      rw [hx]
      exact fresh_launch (d := { d with ledger := ledger, lookups := n }) hwrite hlaunch

end

/-! ## A desk to try -/

/-- A balancer of an account in the region `r`. -/
def sampleBalancer (id cloudId domain : String) : LoadBalancer :=
  { id := id, cloudId := cloudId, vendor := .tcloud, account := "a", business := 1, region := "r",
    domain := domain, privateV4 := [], privateV6 := [], publicV4 := [], publicV6 := [] }

/-- A cloud with two balancers. -/
def sampleCloud : Cloud := .ofSnapshot { Snapshot.empty with
  balancers := [sampleBalancer "lb-1" "clb-1" "first", sampleBalancer "lb-2" "clb-2" "second"] }

def sampleContext : Context :=
  { vendor := .tcloud, business := 1, account := "a", regions := ["r"] }

/-- A listener for a balancer. -/
def sampleRecord (cloudId domain : String) (port : Nat) : ListenerRecord :=
  { ListenerRecord.blank with vip := domain, balancer := cloudId, protocol := "HTTP",
                              ports := [port] }

/-- Three listeners for the two balancers. -/
def sampleRecords : List ListenerRecord :=
  [sampleRecord "clb-1" "first" 80, sampleRecord "clb-2" "second" 80,
    sampleRecord "clb-1" "first" 81]

/-- A desk that was never used, with an engine that starts only so many flows, and with a ledger
that may refuse deletions. -/
def sample (starts : Option Nat) (refusesDeletes : Bool) : Desk MemoryLedger LockList :=
  { ledger := { MemoryLedger.empty 0 with refusesDeletes := refusesDeletes },
    dispatch := { engine := { Engine.empty 0 with startBudget := starts }, locks := .empty },
    cloud := sampleCloud, lookups := 0, limits := .standard, now := 0 }

theorem fresh_sample (starts : Option Nat) (refusesDeletes : Bool) :
    (sample starts refusesDeletes).ledger.Fresh ∧ (sample starts refusesDeletes).dispatch.Fresh :=
  ⟨⟨.nil, .nil⟩, ⟨⟨.nil, .nil⟩, .nil⟩⟩

end BalancerImport.Desk
