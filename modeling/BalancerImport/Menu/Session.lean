import BalancerImport.Menu.Screen
import BalancerImport.Menu.Startup
import BalancerImport.Ledger.Memory
import BalancerImport.Ledger.Tables

/-!
# Sessions

A session of the menu asks one question after the other and acts on each answer, a line of text. It
first asks for the operator, then for choices of the menu until one of them ends it. An answer about
the operator that cannot be read ends it as well.

* `Prompt`: the open question; `Session`: the desk, the last preview and the open question;
* `Session.answer`: what an answer shows and what comes next;
* `Session.feed`: a session with a list of answers; `Menu.run`: the same from the start.
-/

namespace BalancerImport

/-! ## Questions -/

/-- A question of the menu. -/
inductive MenuPrompt where
  | choice
  | operation
  | rowsFile (operation : Operation)
  | source
  | job
  deriving DecidableEq, Repr

/-- An open question, with what was answered before it. -/
inductive Prompt where
  | vendor
  | business (vendor : Vendor)
  | account (vendor : Vendor) (business : Int)
  | regions (vendor : Vendor) (business : Int) (account : String)
  | menu (ctx : Context) (question : MenuPrompt)
  deriving DecidableEq, Repr

/-- A session: the desk, the operation and the records of the last preview, the open question. -/
structure Session (L K : Type) where
  desk : Desk L K
  last : Option (Operation × Json)
  prompt : Prompt

/-- What comes after an answer: another question, or the end with a status. -/
inductive Next (L K : Type) where
  | ask (s : Session L K)
  | ended (status : Nat)

/-- What an answer shows, and what comes next. -/
structure Reply (L K : Type) where
  shown : List Shown
  next : Next L K

namespace Session

variable {L K : Type}

/-- The session that begins at a desk. -/
def start (d : Desk L K) : Session L K := { desk := d, last := none, prompt := .vendor }

/-- The session at a moment. -/
def atMoment (now : Instant) (s : Session L K) : Session L K :=
  { s with desk := { s.desk with now := now } }

/-- What a session shows when it begins. -/
def greeting : List Shown := [.out "Proveedor [tcloud]: "]

/-- Asks another question. -/
def ask (question : String) (prompt : Prompt) (s : Session L K) : Reply L K :=
  { shown := [.out question], next := .ask { s with prompt := prompt } }

/-- Shows something and goes back to the menu. -/
def toMenu (ctx : Context) (shown : List Shown) (s : Session L K) : Reply L K :=
  { shown := shown ++ Screen.choices, next := .ask { s with prompt := .menu ctx .choice } }

/-- Ends with an error. -/
def fail (fault : FatalFault) : Reply L K :=
  { shown := [.complaint s!"Error: {fault.shown}"], next := .ended 1 }

/-! ## The operator -/

/-- The vendor of an answer. -/
def answerVendor (line : String) (s : Session L K) : Reply L K :=
  let next (vendor : Vendor) := s.ask "Negocio (bk_biz_id) [100]: " (.business vendor)
  if line.isEmpty then next .tcloud
  else
    match Vendor.parse line with
    | .ok vendor => next vendor
    | .error cause => fail (.cloud cause)

/-- The business of an answer. -/
def answerBusiness (vendor : Vendor) (line : String) (s : Session L K) : Reply L K :=
  let next (business : Int) := s.ask "Cuenta: " (.account vendor business)
  if line.isEmpty then next 100
  else
    match Text.readSigned Text.maxInt64 line with
    | .ok business => next business
    | .error fault => fail (.business fault)

/-- The regions of an answer. -/
def regionsOf (line : String) : List String :=
  ((line.toList.splitOn ',').map Text.trimChars).filterMap fun part =>
    if part.isEmpty then none else some (String.ofList part)

/-! ## Choices -/

/-- Asks for an operation, if the vendor offers any. -/
def chooseOperation (ctx : Context) (s : Session L K) : Reply L K :=
  let operations := Offer.operationsOf ctx.vendor
  if operations.isEmpty then
    s.toMenu ctx
      [.line s!"El proveedor {Named.name ctx.vendor} no tiene operaciones de importación"]
  else
    { shown := Screen.operations operations
      next := .ask { s with prompt := .menu ctx .operation } }

/-- The operation of a number. -/
def operationAt? (ctx : Context) (line : String) : Option Operation :=
  match Text.unsigned? Text.maxWord64 line with
  | some (n + 1) => (Offer.operationsOf ctx.vendor)[n]?
  | _ => none

/-- Asks for rows of an operation. -/
def answerOperation (ctx : Context) (line : String) (s : Session L K) : Reply L K :=
  match operationAt? ctx line with
  | some operation => s.ask "Archivo de filas (JSON): " (.menu ctx (.rowsFile operation))
  | none => s.toMenu ctx [.line "Operación inválida"]

/-- The rows of a file, or why there are none. -/
def readRows (files : Files) (path : String) : Except String (List (List String)) :=
  match files path with
  | none => .error "archivo ilegible"
  | some document =>
    match (Json.parse? document).bind (Json.listOf? Json.strs?) with
    | some rows => .ok rows
    | none => .error "JSON mal formado"

/-- Previews the rows of a file. -/
def answerRowsFile (files : Files) (ctx : Context) (operation : Operation) (line : String)
    (s : Session L K) : Reply L K :=
  match readRows files line with
  | .error reason => s.toMenu ctx [.complaint s!"No se pudieron leer las filas: {reason}"]
  | .ok rows =>
    match Service.preview ctx operation rows s.desk with
    | (.error e, desk) =>
      toMenu ctx [.complaint s!"Error en la previsualización: {e.message}"] { s with desk := desk }
    | (.ok records, desk) =>
      toMenu ctx (Screen.records records) { s with desk := desk, last := some (operation, records) }

/-- Validates the last preview again. -/
def revalidate (ctx : Context) (s : Session L K) : Reply L K :=
  match s.last with
  | none => s.toMenu ctx [.line "No hay previsualización"]
  | some (operation, records) =>
    match Service.validate ctx operation records s.desk with
    | (.error e, desk) =>
      toMenu ctx [.complaint s!"Error al revalidar: {e.message}"] { s with desk := desk }
    | (.ok records, desk) =>
      toMenu ctx (Screen.records records) { s with desk := desk, last := some (operation, records) }

/-- Asks where the rows of the last preview come from. -/
def chooseSource (ctx : Context) (s : Session L K) : Reply L K :=
  if s.last.isNone then s.toMenu ctx [.line "No hay previsualización"]
  else s.ask "Origen (excel/sops) [excel]: " (.menu ctx .source)

/-- The source of an answer. -/
def readSource (line : String) : Except StoreError Source :=
  if line.isEmpty then .ok .excel else Stored.parse line

/-- What is said of an execution that failed. -/
def executionComplaint (e : ImportError) : Shown :=
  if e.isBusy then
    .complaint s!"Recurso ocupado, reintente cuando termine el flow: {e.message}"
  else .complaint s!"Error al ejecutar: {e.message}"

variable [LedgerStore L] [LockStore K]

/-- Executes the last preview. -/
def answerSource (ctx : Context) (line : String) (s : Session L K) : Reply L K :=
  match s.last with
  | none => s.toMenu ctx [.line "No hay previsualización"]
  | some (operation, records) =>
    match readSource line with
    | .error e => s.toMenu ctx [.complaint e.message]
    | .ok source =>
      match Service.execute ctx operation source records s.desk with
      | (.error e, desk) => toMenu ctx [executionComplaint e] { s with desk := desk }
      | (.ok report, desk) =>
        toMenu ctx (Screen.report report) { s with desk := desk, last := none }

/-- Runs the flows that wait. -/
def runFlows (ctx : Context) (s : Session L K) : Reply L K :=
  match s.desk.run Worker.acceptAll () with
  | (.error e, _, desk) =>
    toMenu ctx [.complaint s!"Error procesando flows: {e.message}"] { s with desk := desk }
  | (.ok summary, _, desk) => toMenu ctx [Screen.summary summary] { s with desk := desk }

/-- Shows a job. -/
def answerJob (ctx : Context) (line : String) (s : Session L K) : Reply L K :=
  match Uuid.parse? line with
  | none => s.toMenu ctx [.complaint "UUID inválido"]
  | some id =>
    match Service.job id s.desk with
    | .error e => s.toMenu ctx [.complaint s!"Error leyendo el job: {e.message}"]
    | .ok (job, items) => s.toMenu ctx (Screen.job job items)

/-- Shows the locks. -/
def showLocks (ctx : Context) (s : Session L K) : Reply L K :=
  match LockStore.locks s.desk.dispatch.locks with
  | .error e => s.toMenu ctx [.complaint s!"Error listando bloqueos: {StoreError.message e}"]
  | .ok locks => s.toMenu ctx (Screen.locks locks)

/-- Acts on a choice of the menu. -/
def answerChoice (ctx : Context) (line : String) (s : Session L K) : Reply L K :=
  match line with
  | "1" => s.chooseOperation ctx
  | "2" => s.revalidate ctx
  | "3" => s.chooseSource ctx
  | "4" => s.runFlows ctx
  | "5" => s.ask "Job id (UUID): " (.menu ctx .job)
  | "6" => s.showLocks ctx
  | "7" => { shown := [.line "Saliendo..."], next := .ended 0 }
  | other => s.toMenu ctx [.line s!"Opción inválida: {other}"]

/-! ## Answers -/

/-- Acts on an answer without the white space around it. -/
def answerTrimmed (files : Files) (line : String) (s : Session L K) : Reply L K :=
  match s.prompt with
  | .vendor => s.answerVendor line
  | .business vendor => s.answerBusiness vendor line
  | .account vendor business =>
    s.ask "Regiones autorizadas (separadas por comas): " (.regions vendor business line)
  | .regions vendor business account =>
    s.toMenu { vendor, business, account, regions := regionsOf line } []
  | .menu ctx .choice => s.answerChoice ctx line
  | .menu ctx .operation => s.answerOperation ctx line
  | .menu ctx (.rowsFile operation) => s.answerRowsFile files ctx operation line
  | .menu ctx .source => s.answerSource ctx line
  | .menu ctx .job => s.answerJob ctx line

/-- Acts on an answer. -/
def answer (files : Files) (line : String) (s : Session L K) : Reply L K :=
  s.answerTrimmed files (Text.trim line)

/-- The file that an answer names, if it answers the question for one. -/
def fileNamed? (line : String) (s : Session L K) : Option String :=
  match s.prompt with
  | .menu _ (.rowsFile _) => some (Text.trim line)
  | _ => none

end Session

/-! ## Whole sessions -/

/-- What came of a session: what it showed, its status if it ended, and how many answers it read. -/
structure Transcript where
  shown : List Shown
  status : Option Nat
  answersRead : Nat
  deriving DecidableEq, Repr

/-- A transcript with an answer before it. -/
def Transcript.after (shown : List Shown) (t : Transcript) : Transcript :=
  { t with shown := shown ++ t.shown, answersRead := t.answersRead + 1 }

/-- A session with a list of answers. -/
def Session.feed {L K : Type} [LedgerStore L] [LockStore K] (files : Files) :
    List String → Session L K → Transcript
  | [], _ => { shown := [], status := none, answersRead := 0 }
  | line :: lines, s =>
    match s.answer files line with
    | { shown, next := .ended status } => { shown, status := some status, answersRead := 1 }
    | { shown, next := .ask s } => (s.feed files lines).after shown

namespace Menu

/-- A session that begins at a desk, with a list of answers. -/
def runAt {L K : Type} [LedgerStore L] [LockStore K] (files : Files) (lines : List String)
    (d : Desk L K) : Transcript :=
  let t := (Session.start d).feed files lines
  { t with shown := Session.greeting ++ t.shown }

/-- A session in an environment, with a list of answers. Memory is empty at first, and tables hold
what other sessions left in them. -/
def run (files : Files) (vars : Variables) (seed : Nat) (now : Instant) (tables : LedgerTables)
    (locks : LockTable) (lines : List String) : Transcript :=
  match Setup.ofEnvironment files vars with
  | .error fault =>
    { shown := [.complaint s!"Error: {fault.shown}"], status := some 1, answersRead := 0 }
  | .ok setup =>
    match setup.stores with
    | .memory => runAt files lines (setup.desk (MemoryLedger.empty seed) LockList.empty seed now)
    | .tables => runAt files lines (setup.desk tables locks seed now)

end Menu

end BalancerImport
