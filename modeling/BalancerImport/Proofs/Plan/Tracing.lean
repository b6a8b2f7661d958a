import BalancerImport.Plan.Submission

/-!
# The requests of a submission

What a submission of plans asks of the engine and of the locks, in order and with the answers. It is
written down once more for any setting in which requests are answered, so that it can do nothing but
make requests. In a setting that notes them it does what `Dispatch.submitAll` does.

* `Requests`, `Requests.submitAll`: a submission in any setting;
* `Request`, `Requests.noting`: the dispatch with a list of the requests that were made;
* `Request.gets`: the requests by which a plan gets its flow, its watch and its lock;
* `Requests.Notes`: what a part of a submission does, and what requests it makes;
  `notes_prepare` and the like: its parts;
* **`Requests.submitAll_noting`**: the whole submission.
-/

namespace BalancerImport

/-! ## Submissions in any setting -/

/-- What a submission of plans can ask for. -/
structure Requests (m : Type → Type) where
  submit : Plan → m (Except FlowError Uuid)
  watch : Watch → m (Except FlowError Uuid)
  acquire : Plan → Uuid → m (Except ImportError Unit)
  cancel : Uuid → String → m Unit
  release : ResourceKey → Uuid → m Unit
  start : Uuid → m (Except FlowError Unit)

namespace Requests

section

variable {m : Type → Type} [Monad m] (q : Requests m)

/-- A plan gets its dormant flow, its watch and its lock. -/
def prepare (p : Plan) : m (Except ImportError Submitted) := do
  match ← q.submit p with
  | .error e => return .error (.flow e)
  | .ok flow =>
    match ← q.watch (p.watch flow) with
    | .error e =>
      q.cancel flow "vigilancia no enviada"
      return .error (.flow e)
    | .ok watch =>
      match ← q.acquire p flow with
      | .error e =>
        q.cancel flow "recurso ocupado"
        return .error e
      | .ok () => return .ok { flow, watch, key := p.key, itemActions := p.itemActions }

/-- Flows are canceled and their locks released. -/
def abandon (reason : String) : List Submitted → m Unit
  | [] => return ()
  | s :: rest => do
    q.cancel s.flow reason
    q.release s.key s.flow
    abandon reason rest

/-- The first phase, after plans that were `prepared` already. -/
def prepareAll : List Submitted → List Plan → m (Except ImportError (List Submitted))
  | prepared, [] => return .ok prepared
  | prepared, p :: rest => do
    match ← q.prepare p with
    | .error e =>
      q.abandon "envío del job abortado" prepared
      return .error e
    | .ok s => prepareAll (prepared ++ [s]) rest

/-- The starts after the first. -/
def startRest : List Submitted → m Unit
  | [] => return ()
  | s :: rest => do
    match ← q.start s.flow with
    | .ok () => startRest rest
    | .error _ =>
      q.abandon "arranque fallido" [s]
      startRest rest

/-- The second phase. -/
def startAll : List Submitted → m (Except ImportError Unit)
  | [] => return .ok ()
  | s :: rest => do
    match ← q.start s.flow with
    | .ok () =>
      q.startRest rest
      return .ok ()
    | .error e =>
      q.abandon "arranque fallido" (s :: rest)
      return .error (.flow e)

/-- Both phases. -/
def submitAll (plans : List Plan) : m (Except ImportError (List Submitted)) := do
  match ← q.prepareAll [] plans with
  | .error e => return .error e
  | .ok submitted =>
    match ← q.startAll submitted with
    | .error e => return .error e
    | .ok () => return .ok submitted

end

end Requests

/-! ## Noting requests -/

/-- A request that was made, with the answer if it may be refused. -/
inductive Request where
  | submit (p : Plan) (answer : Except FlowError Uuid)
  | watch (w : Watch) (answer : Except FlowError Uuid)
  | acquire (p : Plan) (flow : Uuid) (answer : Except ImportError Unit)
  | cancel (flow : Uuid)
  | release (key : ResourceKey) (flow : Uuid)
  | start (flow : Uuid) (answer : Except FlowError Unit)

namespace Request

/-- Whether a request is one to start a flow. -/
def IsStart (r : Request) : Prop := ∃ flow answer, r = .start flow answer

/-- The requests by which a plan gets its flow, its watch and its lock. -/
def gets (p : Plan) (s : Submitted) : List Request :=
  [.submit p (.ok s.flow), .watch (p.watch s.flow) (.ok s.watch), .acquire p s.flow (.ok ())]

end Request

namespace Requests

variable {K : Type} [LockStore K] {now : Instant}

/-- Requests to the engine and the locks of a dispatch, which are added to a list. -/
def noting (K : Type) [LockStore K] (now : Instant) :
    Requests (StateM (Dispatch K × List Request)) where
  submit p := fun (d, h) =>
    let (answer, engine) := d.engine.submit p.flowName p.tasks p.shared
    (answer, { d with engine := engine }, h ++ [.submit p answer])
  watch w := fun (d, h) =>
    let (answer, engine) := d.engine.submitWatch w
    (answer, { d with engine := engine }, h ++ [.watch w answer])
  acquire p flow := fun (d, h) =>
    let (answer, locks) := Lock.acquire now p.key flow p.purpose d.locks
    (answer, { d with locks := locks }, h ++ [.acquire p flow answer])
  cancel flow reason := fun (d, h) => ((), d.cancel flow reason, h ++ [.cancel flow])
  release key flow := fun (d, h) =>
    ((), { d with locks := (Lock.release key flow d.locks).2 }, h ++ [.release key flow])
  start flow := fun (d, h) =>
    let (answer, engine) := d.engine.start flow
    (answer, { d with engine := engine }, h ++ [.start flow answer])

/-- A part of a submission, on a dispatch `d` with any requests before it, gives the answer and the
dispatch of `result`, and makes requests of which `P` is true. -/
def Notes {α : Type} (x : StateM (Dispatch K × List Request) α) (d : Dispatch K)
    (result : α × Dispatch K) (P : List Request → Prop) : Prop :=
  ∃ made, P made ∧ ∀ h, x (d, h) = (result.1, result.2, h ++ made)

section

omit [LockStore K]

variable {α β : Type} {d : Dispatch K} {P Q : List Request → Prop}

theorem notes_pure (a : α) (h : P []) :
    Notes (pure a : StateM (Dispatch K × List Request) α) d (a, d) P :=
  ⟨[], h, fun h => by rw [List.append_nil]; rfl⟩

theorem Notes.bind {x : StateM (Dispatch K × List Request) α}
    {f : α → StateM (Dispatch K × List Request) β} {a : α} {d' : Dispatch K}
    {result : β × Dispatch K} (hx : Notes x d (a, d') P)
    (hf : ∀ made, P made → Notes (f a) d' result fun more => Q (made ++ more)) :
    Notes (x >>= f) d result Q := by
  obtain ⟨made, hmade, hx⟩ := hx
  obtain ⟨more, hmore, hf⟩ := hf made hmade
  refine ⟨made ++ more, hmore, fun h => ?_⟩
  show f (x (d, h)).1 (x (d, h)).2 = _
  rw [hx, hf, List.append_assoc]

theorem Notes.mono {x : StateM (Dispatch K × List Request) α} {result : α × Dispatch K}
    (h : Notes x d result P) (hPQ : ∀ made, P made → Q made) : Notes x d result Q := by
  obtain ⟨made, hmade, hx⟩ := h
  exact ⟨made, hPQ made hmade, hx⟩

end

variable {d d' : Dispatch K} {p : Plan} {s : Submitted} {ss : List Submitted}

/-! ### One request -/

theorem notes_submit {answer : Except FlowError Uuid} {engine : Engine}
    (h : d.engine.submit p.flowName p.tasks p.shared = (answer, engine)) :
    Notes ((noting K now).submit p) d (answer, { d with engine := engine })
      (· = [.submit p answer]) :=
  ⟨_, rfl, fun made => by simp only [noting, h]⟩

theorem notes_watch {w : Watch} {answer : Except FlowError Uuid} {engine : Engine}
    (h : d.engine.submitWatch w = (answer, engine)) :
    Notes ((noting K now).watch w) d (answer, { d with engine := engine })
      (· = [.watch w answer]) :=
  ⟨_, rfl, fun made => by simp only [noting, h]⟩

theorem notes_acquire {flow : Uuid} {answer : Except ImportError Unit} {locks : K}
    (h : Lock.acquire now p.key flow p.purpose d.locks = (answer, locks)) :
    Notes ((noting K now).acquire p flow) d (answer, { d with locks := locks })
      (· = [.acquire p flow answer]) :=
  ⟨_, rfl, fun made => by simp only [noting, h]⟩

theorem notes_cancel (flow : Uuid) (reason : String) :
    Notes ((noting K now).cancel flow reason) d ((), d.cancel flow reason) (· = [.cancel flow]) :=
  ⟨_, rfl, fun _ => rfl⟩

theorem notes_release (key : ResourceKey) (flow : Uuid) :
    Notes ((noting K now).release key flow) d
      ((), { d with locks := (Lock.release key flow d.locks).2 }) (· = [.release key flow]) :=
  ⟨_, rfl, fun _ => rfl⟩

theorem notes_start {flow : Uuid} {answer : Except FlowError Unit} {engine : Engine}
    (h : d.engine.start flow = (answer, engine)) :
    Notes ((noting K now).start flow) d (answer, { d with engine := engine })
      (· = [.start flow answer]) :=
  ⟨_, rfl, fun made => by simp only [noting, h]⟩

/-! ### The first phase -/

/-- A part of a submission that starts nothing. -/
def StartsNone (made : List Request) : Prop := ∀ r ∈ made, ¬ r.IsStart

theorem StartsNone.append {made more : List Request} (h : StartsNone made)
    (h' : StartsNone more) : StartsNone (made ++ more) :=
  List.forall_mem_append.mpr ⟨h, h'⟩

/-- **A plan that can have them gets its flow, its watch and its lock**, and nothing is started. -/
theorem notes_prepare (now : Instant) (p : Plan) (d : Dispatch K) :
    Notes ((noting K now).prepare p) d (d.prepare now p) fun made => StartsNone made ∧
      ∀ s, (d.prepare now p).1 = .ok s → made = Request.gets p s := by
  unfold Dispatch.prepare prepare
  rcases hsubmit : d.engine.submit p.flowName p.tasks p.shared with ⟨e | flow, engine⟩
  · refine (notes_submit hsubmit).bind fun _ hmade => notes_pure _ ?_
    simp [hmade, StartsNone, Request.IsStart]
  · refine (notes_submit hsubmit).bind fun _ hmade => ?_
    simp only
    rcases hwatch : engine.submitWatch (p.watch flow) with ⟨e | watch, engine'⟩
    · refine (notes_watch hwatch).bind fun _ hmade' => ?_
      refine (notes_cancel flow "vigilancia no enviada").bind fun _ hmade'' => notes_pure _ ?_
      simp [hmade, hmade', hmade'', StartsNone, Request.IsStart]
    · refine (notes_watch hwatch).bind fun _ hmade' => ?_
      simp only
      rcases hacquire : Lock.acquire now p.key flow p.purpose d.locks with ⟨e | ⟨⟩, locks⟩
      · refine (notes_acquire (d := { d with engine := engine' }) hacquire).bind fun _ hmade'' => ?_
        refine (notes_cancel flow "recurso ocupado").bind fun _ hmade₃ => notes_pure _ ?_
        simp [hmade, hmade', hmade'', hmade₃, StartsNone, Request.IsStart]
      · refine (notes_acquire (d := { d with engine := engine' }) hacquire).bind fun _ hmade'' =>
          notes_pure _ ⟨?_, fun s hs => ?_⟩
        · simp [hmade, hmade', hmade'', StartsNone, Request.IsStart]
        · obtain rfl := Except.ok.inj hs
          rw [hmade, hmade', hmade'']
          rfl

theorem notes_abandon (now : Instant) (reason : String) : ∀ (ss : List Submitted) (d : Dispatch K),
    Notes ((noting K now).abandon reason ss) d ((), d.abandon reason ss) StartsNone
  | [], _ => notes_pure _ nofun
  | s :: ss, d => by
    refine (notes_cancel s.flow reason).bind fun _ hmade => ?_
    refine (notes_release s.key s.flow).bind fun _ hmade' => ?_
    refine (notes_abandon now reason ss _).mono fun more hmore => ?_
    have hcancel : StartsNone [.cancel s.flow] := by simp [StartsNone, Request.IsStart]
    have hrelease : StartsNone [.release s.key s.flow] := by simp [StartsNone, Request.IsStart]
    rw [hmade, hmade']
    exact hcancel.append (hrelease.append hmore)

/-- The requests by which each of some plans gets its flow, its watch and its lock. -/
def getsAll (plans : List Plan) (ss : List Submitted) : List Request :=
  (List.zipWith Request.gets plans ss).flatten

/-- **In the first phase all plans get their flows, watches and locks, one plan after the other, and
nothing is started.** -/
theorem notes_prepareAll (now : Instant) : ∀ (plans : List Plan) (ss : List Submitted)
    (d : Dispatch K), Notes ((noting K now).prepareAll ss plans) d (d.prepareAll now ss plans)
      fun made => StartsNone made ∧ ∀ ss', (d.prepareAll now ss plans).1 = .ok ss' →
        ∃ new, ss' = ss ++ new ∧ new.length = plans.length ∧ made = getsAll plans new
  | [], ss, d => notes_pure _ ⟨nofun, fun ss' h =>
      ⟨[], by rw [List.append_nil, Except.ok.inj h], rfl, rfl⟩⟩
  | p :: plans, ss, d => by
    have hprepare := notes_prepare now p d
    unfold Dispatch.prepareAll prepareAll
    rcases hp : d.prepare now p with ⟨e | s, d₁⟩
    · rw [hp] at hprepare
      refine hprepare.bind fun _ hmade => ?_
      refine (notes_abandon now _ ss d₁).bind fun _ hmade' => notes_pure _ ⟨?_, nofun⟩
      exact hmade.1.append (hmade'.append nofun)
    · rw [hp] at hprepare
      refine hprepare.bind fun _ hmade => ?_
      refine (notes_prepareAll now plans (ss ++ [s]) d₁).mono fun more hmore => ?_
      refine ⟨hmade.1.append hmore.1, fun ss' h => ?_⟩
      obtain ⟨new, rfl, hlength, hnew⟩ := hmore.2 ss' h
      refine ⟨s :: new, by simp, by simp [hlength], ?_⟩
      rw [hmade.2 s rfl, hnew]
      rfl

/-! ## The second phase -/

theorem notes_startRest (now : Instant) : ∀ (ss : List Submitted) (d : Dispatch K),
    Notes ((noting K now).startRest ss) d ((), d.startRest ss) fun _ => True
  | [], _ => notes_pure _ trivial
  | s :: ss, d => by
    unfold Dispatch.startRest startRest
    rcases hstart : d.engine.start s.flow with ⟨e | ⟨⟩, engine⟩
    · refine (notes_start hstart).bind fun _ _ => ?_
      exact (notes_abandon now _ [s] _).bind fun _ _ => notes_startRest now ss _
    · exact (notes_start hstart).bind fun _ _ => notes_startRest now ss _

/-- A second phase that fails started nothing. -/
theorem notes_startAll (now : Instant) (ss : List Submitted) (d : Dispatch K) :
    Notes ((noting K now).startAll ss) d (d.startAll ss) fun made =>
      ∀ e, (d.startAll ss).1 = .error e → ∀ flow, .start flow (.ok ()) ∉ made := by
  unfold Dispatch.startAll startAll
  cases ss with
  | nil => exact notes_pure _ nofun
  | cons s ss =>
    simp only
    rcases hstart : d.engine.start s.flow with ⟨e | ⟨⟩, engine⟩
    · refine (notes_start hstart).bind fun _ hmade => ?_
      refine (notes_abandon now _ (s :: ss) _).bind fun more hmore => notes_pure _ ?_
      intro _ _ flow hflow
      rw [hmade, List.append_nil] at hflow
      rcases List.mem_append.mp hflow with hflow | hflow
      · simp at hflow
      · exact hmore _ hflow ⟨flow, _, rfl⟩
    · refine (notes_start hstart).bind fun _ _ => ?_
      exact (notes_startRest now ss _).bind fun _ _ => notes_pure _ nofun

/-! ## Both phases -/

/-- What requests a submission makes that gives some answer. -/
structure Phased (plans : List Plan) (answer : Except ImportError (List Submitted))
    (made : List Request) : Prop where
  /-- Before it asks for a start, all plans got their flows, watches and locks. -/
  prepared : ∀ before flow started after, made = before ++ .start flow started :: after →
    ∃ ss rest, ss.length = plans.length ∧ before = getsAll plans ss ++ rest
  /-- These are the flows that it tells of. -/
  accepted : ∀ ss, answer = .ok ss → ss.length = plans.length ∧
    ∃ rest, made = getsAll plans ss ++ rest
  /-- If it fails, then no start was accepted. -/
  refused : ∀ e, answer = .error e → ∀ flow, .start flow (.ok ()) ∉ made

/-- What comes before a start, if the first of the requests are none. -/
theorem StartsNone.split {first more before after : List Request} {flow : Uuid}
    {answer : Except FlowError Unit} (h : StartsNone first)
    (he : first ++ more = before ++ .start flow answer :: after) :
    ∃ rest, before = first ++ rest := by
  rcases List.append_eq_append_iff.mp he with ⟨rest, hbefore, -⟩ | ⟨rest, hfirst, hrest⟩
  · exact ⟨rest, hbefore⟩
  · cases rest with
    | nil => exact ⟨[], by rw [hfirst, List.append_nil, List.append_nil]⟩
    | cons r rest =>
      obtain ⟨rfl, -⟩ := List.cons.inj hrest
      exact absurd ⟨flow, answer, rfl⟩
        (h _ (hfirst ▸ List.mem_append_right _ List.mem_cons_self))

/-- **A submission that notes its requests is the submission, and its requests are made in two
phases.** -/
theorem submitAll_noting (now : Instant) (plans : List Plan) (d : Dispatch K) :
    ∃ made, Phased plans (d.submitAll now plans).1 made ∧
      ∀ h, (noting K now).submitAll plans (d, h) =
        ((d.submitAll now plans).1, (d.submitAll now plans).2, h ++ made) := by
  have hprepare := notes_prepareAll now plans [] d
  unfold Dispatch.submitAll submitAll
  rcases hp : d.prepareAll now [] plans with ⟨e | ss, d₁⟩
  · rw [hp] at hprepare
    refine hprepare.bind fun made hmade => notes_pure _ ?_
    rw [List.append_nil]
    refine ⟨fun before flow started after he => ?_, nofun, fun _ _ flow hflow => ?_⟩
    · exact absurd ⟨flow, started, rfl⟩ (hmade.1 _ (he ▸ by simp))
    · exact hmade.1 _ hflow ⟨flow, _, rfl⟩
  · rw [hp] at hprepare
    refine hprepare.bind fun made hmade => ?_
    obtain ⟨_, rfl, hlength, rfl⟩ := hmade.2 ss rfl
    have hprepared : ∀ more before flow started after,
        getsAll plans ss ++ more = before ++ .start flow started :: after →
          ∃ ss rest, ss.length = plans.length ∧ before = getsAll plans ss ++ rest :=
      fun more before flow started after he =>
        have ⟨rest, hrest⟩ := hmade.1.split he
        ⟨ss, rest, hlength, hrest⟩
    have hstart := notes_startAll now ss d₁
    simp only
    rcases hs : d₁.startAll ss with ⟨e | ⟨⟩, d₂⟩
    · rw [hs] at hstart
      refine hstart.bind fun more hmore => notes_pure _ ?_
      rw [List.append_nil]
      refine ⟨hprepared more, nofun, fun _ _ flow hflow => ?_⟩
      rcases List.mem_append.mp hflow with hflow | hflow
      · exact hmade.1 _ hflow ⟨flow, _, rfl⟩
      · exact hmore e rfl flow hflow
    · rw [hs] at hstart
      refine hstart.bind fun more _ => notes_pure _ ?_
      rw [List.append_nil]
      refine ⟨hprepared more, fun _ h => ?_, nofun⟩
      obtain rfl := Except.ok.inj h
      exact ⟨hlength, more, rfl⟩

end Requests

end BalancerImport
