import BalancerImport.Import.Service
import BalancerImport.Text.Moment

/-!
# What the menu shows

The texts of the menu: its choices, the table of a preview, a job, the locks, and what a pass of the
worker did.

* `Shown`: a text on one of the two channels;
* `Screen.choices`, `Screen.records`, `Screen.job`, `Screen.locks`, `Screen.summary`,
  `Screen.report`.
-/

namespace BalancerImport

/-- A text that the menu shows, to be read or as a complaint. -/
inductive Shown where
  | out (text : String)
  | err (text : String)
  deriving DecidableEq, Repr

/-- A line to be read. -/
def Shown.line (text : String) : Shown := .out (text ++ "\n")

/-- A line of complaint. -/
def Shown.complaint (text : String) : Shown := .err (text ++ "\n")

namespace Screen

/-- A text with spaces before it up to a width. -/
def padLeft (width : Nat) (s : String) : String :=
  String.ofList (List.replicate (width - s.length) ' ') ++ s

/-- A text with spaces after it up to a width. -/
def padRight (width : Nat) (s : String) : String :=
  s ++ String.ofList (List.replicate (width - s.length) ' ')

/-- Lines, each with its end. -/
def lines (ls : List String) : Shown := .out (String.join (ls.map (· ++ "\n")))

/-- The choices of the menu, and the question for one. -/
def choices : List Shown :=
  [lines ["", "== Import CLI ==", "1) Previsualizar filas",
      "2) Revalidar la última previsualización", "3) Ejecutar la última previsualización",
      "4) Procesar flows pendientes", "5) Ver job", "6) Ver bloqueos", "7) Salir"],
    .out "Elige una opción: "]

/-- The text of a member, or a dash. -/
def textOf (key : String) (record : Json) : String :=
  ((record.member? key).bind Json.str?).getD "-"

/-- The messages of a record. -/
def messagesOf (record : Json) : List String :=
  (((record.member? "validate_result").bind Json.arr?).getD []).filterMap Json.str?

/-- The line of a record. -/
def recordLine (number : Nat) (record : Json) : String :=
  padLeft 5 (toString number) ++ " | " ++ padRight 14 (textOf "status" record) ++ " | " ++
    padRight 15 (textOf "cloud_clb_id" record) ++ " | " ++
    String.intercalate "; " (messagesOf record)

/-- The lines of records from a number on. -/
def recordLines : Nat → List Json → List String
  | _, [] => []
  | number, record :: records => recordLine number record :: recordLines (number + 1) records

/-- The table of validated records. -/
def records (document : Json) : List Shown :=
  match document.arr? with
  | none => []
  | some items =>
    [lines (["", "LÍNEA | ESTADO         | BALANCEADOR     | MENSAJES",
      "---------------------------------------------------------------"] ++ recordLines 1 items)]

/-- The numbered operations of a vendor, and the question for one. -/
def operations (ops : List Operation) : List Shown :=
  [lines (ops.mapIdx fun i op => s!"  {i + 1}) {Named.name op}"), .out "Operación: "]

/-- What an execution did. -/
def report (r : Report) : List Shown :=
  [lines ([s!"Job creado: {r.job}",
    s!"  registros ejecutados: {r.executed} (omitidos: {r.skipped})"] ++
    r.flows.map fun flow => s!"  flow: {flow}")]

/-- What a pass of the worker did. -/
def summary (s : Summary) : Shown :=
  .line (s!"Flows correctos: {s.succeeded}, fallidos: {s.failed}, vigilancias: {s.watches}, " ++
    s!"en cola: {s.left}")

/-- The line of an item. -/
def itemLine (i : Item) : String :=
  s!"{i.id} | {Named.name i.operation} | " ++ (i.flow.map Uuid.text).getD "-" ++ " | " ++
    Text.bracketed (i.actions.map Text.quoted)

/-- A job with its items. -/
def job (j : Job) (items : List Item) : List Shown :=
  [lines ([s!"Job {j.id} [{Named.name j.state}] {Named.name j.vendor} / {j.account} " ++
      s!"({Named.name j.source})",
    "  flows: " ++ Text.bracketed (j.flows.map Uuid.text),
    "ITEM                                 | OPERACIÓN               | FLOW | ACCIONES",
    "---------------------------------------------------------------------------------"] ++
    items.map itemLine)]

/-- The line of a lock. -/
def lockLine (l : ResourceLock) : String :=
  s!"{l.key.text} → flow {l.owner} ({Named.name l.purpose}, " ++
    s!"desde {Text.shownMoment l.createdAt})"

/-- The locks that are held. -/
def locks (ls : List ResourceLock) : List Shown :=
  if ls.isEmpty then [.line "Sin bloqueos"] else [lines (ls.map lockLine)]

end Screen

end BalancerImport
