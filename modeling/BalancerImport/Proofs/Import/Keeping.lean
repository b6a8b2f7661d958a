import BalancerImport.Proofs.Import.Execution
import BalancerImport.Proofs.Import.Restoring
import BalancerImport.Proofs.Import.Stability

/-!
# Records that are kept

A record that is written down is read back as it was, but for what validation resolves again. It is
written down in the answer to a preview, which may be sent back, and in the item of an execution.

* `Holding`: what a ledger holds of its records; `MemoryLedger.holding`, `LedgerTables.holding`:
  both ledgers; **`Holding.execute`**: what an accepted execution adds to it;
* `Offer.Keeps`: how the records of an offer come back; **`Offer.records_kept`**: those of both
  offers.
-/

namespace BalancerImport

open Importable Separable Storable

/-! ## What ledgers hold -/

/-- What a ledger holds: a list that an import adds its records to, and that noting flows does not
change. -/
structure Holding (L R : Type) [LedgerStore L] [Importable R] {β : Type} (held : L → List β)
    (entry : Uuid → R → β) : Prop where
  noted : ∀ w l, Written.KeptByNoting w fun ledger => held ledger = l
  written : ∀ {ctx source now} {rs : List R} {w} {ledger ledger' : L},
    Written.write ctx source now rs ledger = (.ok w, ledger') →
      held ledger' = held ledger ++ rs.map (entry w.job)

section

variable {L K R β : Type} [LedgerStore L] [LockStore K] [Importable R] {held : L → List β}
  {entry : Uuid → R → β} {offer : Capability R} {ctx : Context} {source : Source} {rs : List R}
  {d d' : Desk L K}

theorem Holding.attach (h : Holding L R held entry) {w : Written} {flows : List Submitted}
    {ledger ledger' : L} {answer : Except ImportError Unit}
    (hattach : w.attach flows ledger = (answer, ledger')) : held ledger' = held ledger := by
  -- the items whose flows are noted need not be those of the import
  let noted : Written := { w with items := flows.flatMap fun f => f.itemActions.map Prod.fst }
  have hcovered : ∀ f ∈ flows, ∀ a ∈ f.itemActions, a.1 ∈ noted.items := fun f hf a ha =>
    List.mem_flatMap.mpr ⟨f, hf, List.mem_map_of_mem ha⟩
  have hkept := (h.noted noted (held ledger)).attach rfl hcovered
  have hsame : noted.attach flows ledger = w.attach flows ledger := rfl
  rwa [hsame, hattach] at hkept

/-- **An accepted execution adds the records that it executed.** -/
theorem Holding.execute (h : Holding L R held entry) {report : Report}
    (hok : d.execute offer ctx source rs = (.ok report, d')) :
    ∃ validated, (d.validate offer.rules ctx rs).1 = .ok validated ∧
      held d'.ledger =
        held d.ledger ++ (validated.filter isExecutable).map (entry report.job) := by
  obtain ⟨validated, w, ledger, ss, n, hv, -, hwrite, hlaunch, rfl⟩ := Desk.execute_ok hok
  obtain ⟨d₁, ledger', hsubmit, hattach, rfl⟩ := Desk.launch_ok hlaunch
  have hledger : d₁.ledger = ledger := Desk.ledger_submit hsubmit
  rw [hledger] at hattach
  exact ⟨validated, hv, (h.attach hattach).trans (h.written hwrite)⟩

end

/-- The records that the items of a ledger hold, each with the job of its item. -/
def MemoryLedger.records (R : Type) [Importable R] (s : MemoryLedger) : List (Uuid × Option R) :=
  s.items.map fun i => (i.job, decode? i.param)

/-- The records that the rows of items hold, each with the job of its item. -/
def LedgerTables.records (R : Type) [Importable R] (s : LedgerTables) : List (String × Option R) :=
  s.items.map fun row => (row.job, (Json.parse? row.param).bind decode?)

section

variable {R : Type} [Importable R]

theorem MemoryLedger.records_applyUpdates : ∀ (us : List ItemUpdate) (items : List Item),
    ((applyUpdates us items).2.map fun i => (i.job, (decode? i.param : Option R))) =
      items.map fun i => (i.job, decode? i.param)
  | [], _ => rfl
  | u :: us, items => by
    unfold applyUpdates
    split
    · rw [records_applyUpdates us, List.map_map]
      refine List.map_congr_left fun i _ => ?_
      rw [Function.comp_apply, applyTo]
      split <;> rfl
    · rfl

theorem MemoryLedger.records_startItems (seed : Nat) (job : Uuid) : ∀ (n : Nat) (rs : List R),
    ((startItems seed n (rs.map (NewItem.ofRecord job))).map fun i =>
      (i.job, (decode? i.param : Option R))) = rs.map fun r => (job, decode? (encode r))
  | _, [] => rfl
  | n, r :: rs => by
    rw [List.map_cons, List.map_cons, startItems, List.map_cons,
      records_startItems seed job (n + 1)]
    rfl

/-- The ledger in memory holds the records as they are read back from their JSON forms. -/
theorem MemoryLedger.holding :
    Holding MemoryLedger R (records R) fun job r => (job, decode? (encode r)) where
  noted w l := by
    constructor
    case updateItems =>
      intro s us h _
      change (s.updateItems us).2.records R = l
      unfold MemoryLedger.updateItems
      split
      · exact h
      · exact (records_applyUpdates us s.items).trans h
    case setFlows =>
      intro s flows h
      change (s.setFlows w.job flows).2.records R = l
      unfold MemoryLedger.setFlows
      split
      · exact h
      split
      · exact h
      · exact h
  written hwrite := by
    obtain ⟨rfl, rfl⟩ := Written.eq_created_of_write_ok hwrite
    rw [records, Written.created, List.map_append, records_startItems]
    rfl

theorem LedgerTables.records_applyUpdates? : ∀ {us : List ItemUpdate} {rows rows' : List ItemRow},
    applyUpdates? us rows = some rows' →
    (rows'.map fun row => (row.job, ((Json.parse? row.param).bind decode? : Option R))) =
      rows.map fun row => (row.job, (Json.parse? row.param).bind decode?)
  | [], _, _, h => by rw [Option.some.inj h]
  | u :: us, rows, rows', h => by
    unfold applyUpdates? at h
    split at h
    · rw [records_applyUpdates? h, applyUpdate, List.map_map]
      refine List.map_congr_left fun row _ => ?_
      rw [Function.comp_apply]
      split <;> rfl
    · cases h

theorem LedgerTables.records_startRows (seed : Nat) (now : Instant) (job : Uuid) :
    ∀ (n seq : Nat) (rs : List R),
      ((startRows seed now n seq (rs.map (NewItem.ofRecord job))).map fun row =>
        (row.job, ((Json.parse? row.param).bind decode? : Option R))) =
          rs.map fun r => (job.text, (Json.parse? (encode r).render).bind decode?)
  | _, _, [] => rfl
  | n, seq, r :: rs => by
    rw [List.map_cons, List.map_cons, startRows, List.map_cons,
      records_startRows seed now job (n + 1) (seq + 1)]
    rfl

/-- Tables hold the records as they are read back from the texts of their JSON forms. -/
theorem LedgerTables.holding : Holding LedgerTables R (records R) fun job r =>
    (job.text, (Json.parse? (encode r).render).bind decode?) where
  noted w l := by
    constructor
    case updateItems =>
      intro s us h _
      change (s.updateItems us).2.records R = l
      unfold LedgerTables.updateItems
      split
      · rename_i rows hrows
        exact (records_applyUpdates? hrows).trans h
      · exact h
    case setFlows =>
      intro s flows h
      change (s.setFlows w.job flows).2.records R = l
      unfold LedgerTables.setFlows
      dsimp only
      split <;> exact h
  written {ctx source now rs w s s'} hwrite := by
    obtain ⟨hw, rfl⟩ := Prod.mk.inj ((Written.write_tables s).symm.trans hwrite)
    obtain rfl := Except.ok.inj hw
    rw [records, List.map_append, records_startRows]
    rfl

end

/-! ## Offers -/

/-- How the records of an offer come back from where they are kept: as what `clear` leaves of
them. -/
structure Offer.Keeps (o : Offer) (Sized : o.Record → Prop) (clear : o.Record → o.Record) :
    Prop where
  /-- A record is read back from its JSON form, and this from its text. -/
  record : ∀ r, Sized r → decode? (encode r) = some (clear r) ∧
    Json.parse? (encode r).render = some (encode r)
  /-- A preview that is sent back, also as a text, is read as the records that were previewed. -/
  preview : ∀ {L K : Type} (ctx : Context) (d : Desk L K) (rows : List (List String)) (out : Json),
    ctx.vendor = o.vendor → (Service.preview ctx o.operation rows d).1 = .ok out →
    ∃ rs previewed, Sheet.readRows rows = .ok rs ∧
      (d.validate o.capability.rules ctx rs).1 = .ok previewed ∧ out = encodeAll previewed ∧
      o.decode out = .ok (previewed.map clear) ∧ Json.parse? out.render = some out
  /-- In memory, an execution adds items that hold the records that it executed. -/
  items : ∀ {K : Type} [LockStore K] (ctx : Context) (source : Source) (d d' : Desk MemoryLedger K)
    (json : Json) (report : Report), ctx.vendor = o.vendor →
    Service.execute ctx o.operation source json d = (.ok report, d') →
    ∃ rs validated, o.decode json = .ok rs ∧
      (d.validate o.capability.rules ctx rs).1 = .ok validated ∧
      d'.ledger.records o.Record = d.ledger.records o.Record ++
        (validated.filter isExecutable).map fun r => (report.job, some (clear r))
  /-- In tables, it adds rows that hold them. -/
  rows : ∀ {K : Type} [LockStore K] (ctx : Context) (source : Source) (d d' : Desk LedgerTables K)
    (json : Json) (report : Report), ctx.vendor = o.vendor →
    Service.execute ctx o.operation source json d = (.ok report, d') →
    ∃ rs validated, o.decode json = .ok rs ∧
      (d.validate o.capability.rules ctx rs).1 = .ok validated ∧
      d'.ledger.records o.Record = d.ledger.records o.Record ++
        (validated.filter isExecutable).map fun r => (report.job.text, some (clear r))

theorem Offer.decode_eq_ok {o : Offer} {document : Json} {rs : List o.Record} :
    o.decode document = .ok rs ↔ decodeAll? document = some rs := by
  unfold Offer.decode
  cases (decodeAll? document : Option (List o.Record)) <;> simp

section

variable {L K : Type} [LedgerStore L] [LockStore K] {o : Offer} {ctx : Context} {source : Source}
  {json : Json} {report : Report} {d d' : Desk L K}

theorem Service.execute_ok {operation : Operation}
    (ho : Offer.find ctx.vendor operation = .ok o)
    (h : Service.execute ctx operation source json d = (.ok report, d')) :
    ∃ rs, decodeAll? json = some rs ∧ d.execute o.capability ctx source rs = (.ok report, d') := by
  simp only [Service.execute, ho, Offer.decode] at h
  cases hrs : (decodeAll? json : Option (List o.Record)) with
  | none =>
    rw [hrs] at h
    cases congrArg Prod.fst h
  | some rs =>
    rw [hrs] at h
    exact ⟨rs, rfl, h⟩

variable [Separable o.Record] [Storable o.Record]

omit [LedgerStore L] [LockStore K] in
theorem Desk.sized_validate (hrules : o.capability.rules.Annotating) {rs validated : List o.Record}
    (hrs : ∀ r ∈ rs, Sized r ∧ Unresolved r)
    (hv : (d.validate o.capability.rules ctx rs).1 = .ok validated) : ∀ v ∈ validated, Sized v :=
  sized_validated hrules hrs (mapError_ok hv)

/-- What an accepted request to execute adds to a ledger, of records that are read back. -/
theorem Service.held_execute {β : Type} {held : L → List β} {entry entry' : Uuid → o.Record → β}
    (hheld : Holding L o.Record held entry) (hentry : ∀ job r, Sized r → entry job r = entry' job r)
    (hfind : Offer.find o.vendor o.operation = .ok o)
    (hrules : o.capability.rules.Annotating) (hvendor : ctx.vendor = o.vendor)
    (h : Service.execute ctx o.operation source json d = (.ok report, d')) :
    ∃ rs validated, o.decode json = .ok rs ∧
      (d.validate o.capability.rules ctx rs).1 = .ok validated ∧
      held d'.ledger =
        held d.ledger ++ (validated.filter isExecutable).map (entry' report.job) := by
  obtain ⟨rs, hrs, hexecute⟩ := Service.execute_ok (hvendor ▸ hfind) h
  obtain ⟨validated, hv, hadded⟩ := hheld.execute hexecute
  have hsized := Desk.sized_validate hrules (decodeAll?_unresolved hrs) hv
  refine ⟨rs, validated, Offer.decode_eq_ok.mpr hrs, hv, ?_⟩
  rw [hadded]
  congr 1
  exact List.map_congr_left fun r hr => hentry _ r (hsized r (List.mem_filter.mp hr).1)

theorem Offer.keeps (hfind : Offer.find o.vendor o.operation = .ok o)
    (hrules : o.capability.rules.Annotating)
    (hplain : ∀ r : o.Record, Sized r → Json.Plain 2 (encode r)) :
    o.Keeps Sized fun r => withState (state r) (bare r) where
  record r hr := ⟨decode?_encode r hr, (hplain r hr).parse?_render (by decide)⟩
  preview ctx d rows out hvendor h := by
    obtain ⟨o', rs, ho', hrs, hanswer⟩ := Service.preview_ok h
    rw [hvendor, hfind] at ho'
    obtain rfl := Except.ok.inj ho'
    obtain ⟨previewed, hv, rfl⟩ := map_ok hanswer
    have hsized := Desk.sized_validate (d := d) hrules (Sheet.readRows_unresolved hrs) hv
    refine ⟨rs, previewed, hrs, hv, rfl, ?_, ?_⟩
    · exact decode_eq_ok.mpr (decodeAll?_encodeAll hsized)
    · have hall : Json.Plain 3 (encodeAll previewed) := .arr fun j hj => by
        obtain ⟨r, hr, rfl⟩ := List.mem_map.mp hj
        exact hplain r (hsized r hr)
      exact hall.parse?_render (by decide)
  items ctx source d d' json report hvendor h :=
    Service.held_execute MemoryLedger.holding (fun job r hr => by rw [decode?_encode r hr]) hfind
      hrules hvendor h
  rows ctx source d d' json report hvendor h :=
    Service.held_execute LedgerTables.holding (fun job r hr => by
      rw [(hplain r hr).parse?_render (by decide), Option.bind_some, decode?_encode r hr]) hfind
      hrules hvendor h

end

/-- A listener record without what validation resolves. -/
def ListenerRecord.cleared (r : ListenerRecord) : ListenerRecord := { r with lbId := none }

/-- A backend record without what validation resolves. -/
def BackendRecord.cleared (r : BackendRecord) : BackendRecord :=
  { r with lbId := none, targetGroup := none, inst := none }

/-- **Records survive where they are kept**: of both kinds, they are read back from documents,
previews and items, but for what validation resolves again. -/
theorem Offer.records_kept :
    Offer.listeners.Keeps ListenerRecord.Sized ListenerRecord.cleared ∧
      Offer.backends.Keeps BackendRecord.Sized BackendRecord.cleared := by
  constructor
  · let _ : Separable Offer.listeners.Record := inferInstanceAs (Separable ListenerRecord)
    let _ : Storable Offer.listeners.Record := inferInstanceAs (Storable ListenerRecord)
    exact Offer.keeps rfl ListenerRules.annotating fun r => ListenerRecord.plain_encode
  · let _ : Separable Offer.backends.Record := inferInstanceAs (Separable BackendRecord)
    let _ : Storable Offer.backends.Record := inferInstanceAs (Storable BackendRecord)
    exact Offer.keeps rfl BackendRules.annotating fun r => BackendRecord.plain_encode

/-- A row for a backend, behind a port on which the cloud has no listener. -/
def Desk.sampleRows : List (List String) :=
  [["first", "clb-1", "http", "80", "a.com", "/", "eni", "10.0.0.1", "8080", "10"]]

/-- The record of that row. -/
def Desk.sampleBackend : BackendRecord :=
  { BackendRecord.blank with
    vip := "first", balancer := "clb-1", protocol := "HTTP", ports := [80], domain := "a.com",
    path := "/", kind := "ENI", ip := "10.0.0.1", backendPorts := [8080], weight := some 10 }

/-- Listeners that are executed are kept, but for the balancers to which they were resolved. A
backend that is previewed comes back with what was found out about it, but for its balancer. -/
theorem Offer.records_kept_sample :
    (∃ report d' validated,
      Service.execute Desk.sampleContext .createListener .excel (encodeAll Desk.sampleRecords)
        (Desk.sample none false) = (.ok report, d') ∧
      ((Desk.sample none false).validate listenerRules Desk.sampleContext Desk.sampleRecords).1 =
        .ok validated ∧
      validated.map (fun r => (isExecutable r, r.lbId)) =
        [(true, some "lb-1"), (true, some "lb-2"), (true, some "lb-1")] ∧
      d'.ledger.records ListenerRecord =
        (validated.filter isExecutable).map fun r => (report.job, some r.cleared)) ∧
    ∃ out previewed,
      (Service.preview Desk.sampleContext .bindBackend Desk.sampleRows (Desk.sample none false)).1 =
        .ok out ∧
      out = encodeAll previewed ∧
      previewed.map (fun r => (r.state.messages, r.lbId)) =
        [(["no existe listener en el puerto 80"], some "lb-1")] ∧
      Offer.backends.decode out = .ok (previewed.map BackendRecord.cleared) ∧
      Json.parse? out.render = some out := by
  constructor
  · have haccepted : (Service.execute Desk.sampleContext .createListener .excel
        (encodeAll Desk.sampleRecords) (Desk.sample none false)).1.map (fun _ => ()) = .ok () := by
      decide +kernel
    obtain ⟨report, hreport, -⟩ := map_ok haccepted
    obtain ⟨rs, validated, hrs, hvalid, hkept⟩ :=
      records_kept.1.items _ _ _ _ _ _ rfl (Prod.ext hreport rfl)
    have hsent : decodeAll? (encodeAll Desk.sampleRecords) = some Desk.sampleRecords := by
      decide +kernel
    obtain rfl := Option.some.inj (hsent.symm.trans (decode_eq_ok.mp hrs))
    have hresolved : ((Desk.sample none false).validate listenerRules Desk.sampleContext
        Desk.sampleRecords).1.map (List.map fun r => (isExecutable r, r.lbId)) =
        .ok [(true, some "lb-1"), (true, some "lb-2"), (true, some "lb-1")] := by decide +kernel
    have hfound := (congrArg (Except.map _) hvalid).symm.trans hresolved
    exact ⟨report, _, validated, Prod.ext hreport rfl, hvalid, Except.ok.inj hfound, hkept⟩
  · have haccepted : (Service.preview Desk.sampleContext .bindBackend Desk.sampleRows
        (Desk.sample none false)).1.map (fun _ => ()) = .ok () := by
      decide +kernel
    obtain ⟨out, hout, -⟩ := map_ok haccepted
    obtain ⟨rs, previewed, hrs, hvalid, hencoded, hback, htext⟩ :=
      records_kept.2.preview _ _ _ _ rfl hout
    have hread : Sheet.readRows Desk.sampleRows = .ok [Desk.sampleBackend] := by decide +kernel
    obtain rfl := Except.ok.inj (hread.symm.trans hrs)
    have hresolved : ((Desk.sample none false).validate backendRules Desk.sampleContext
        [Desk.sampleBackend]).1.map (List.map fun r => (r.state.messages, r.lbId)) =
        .ok [(["no existe listener en el puerto 80"], some "lb-1")] := by decide +kernel
    have hfound := (congrArg (Except.map _) hvalid).symm.trans hresolved
    exact ⟨out, previewed, hout, hencoded, Except.ok.inj hfound, hback, htext⟩

-- A weight below zero is kept, though no rule accepts it, and what was resolved is not.
example :
    let r : BackendRecord :=
      { BackendRecord.blank with
        ports := [80, 81], weight := some (-5), state := ⟨.notExecutable, ["weight: -5"]⟩,
        lbId := some "lb-1" }
    decode? (encode r) = some r.cleared := by
  decide +kernel

end BalancerImport
