import BalancerImport.Menu.Session
import Std.Time.DateTime.Timestamp

/-!
# The program

The menu on standard input and output. Everything it decides is decided by `Session`; here files,
variables, the clock and random numbers are read, and texts are written.
-/

namespace BalancerImport.Program

/-- The content of a file, if it can be read. -/
def readFile? (path : String) : IO (Option String) := do
  try return some (← IO.FS.readFile path) catch _ => return none

/-- The contents of those files of a list that can be read. -/
def readFiles (paths : List String) : IO Files := do
  let contents ← paths.mapM fun path => return (path, ← readFile? path)
  return fun path => (contents.lookup path).join

/-- The first file named `.env` in this directory or one of those that hold it. -/
def findEnvFile : List String → IO (Option String)
  | [] => return none
  | path :: paths => do
    match ← readFile? path with
    | some content => return some content
    | none => findEnvFile paths

/-- The values of those variables of a list that are set. -/
def readVariables (names : List String) : IO Variables := do
  let values ← names.mapM fun name => return (name, ← IO.getEnv name)
  return fun name => (values.lookup name).join

/-- A random number of 128 bits. -/
def randomNumber : IO Nat := do
  let bytes ← IO.getRandomBytes 16
  return bytes.toList.foldl (fun n b => n * 256 + b.toNat) 0

/-- The present moment. -/
def currentMoment : IO Instant := do
  return (← Std.Time.Timestamp.now).toMillisecondsSinceUnixEpoch.val

/-- Shows texts on their channels. -/
def display (texts : List Shown) : IO Unit := do
  let stdout ← IO.getStdout
  let stderr ← IO.getStderr
  for text in texts do
    match text with
    | .out s => stdout.putStr s
    | .err s =>
      stdout.flush
      stderr.putStr s
  stdout.flush

/-- Goes on with a session until it ends. -/
partial def converse {L K : Type} [LedgerStore L] [LockStore K] (s : Session L K) : IO UInt32 := do
  let line ← (← IO.getStdin).getLine
  let files ← readFiles (s.fileNamed? line).toList
  let reply := (s.atMoment (← currentMoment)).answer files line
  display reply.shown
  match reply.next with
  | .ask s => converse s
  | .ended status => return status.toUInt32

/-- Begins a session at a desk. -/
def begin {L K : Type} [LedgerStore L] [LockStore K] (d : Desk L K) : IO UInt32 := do
  display Session.greeting
  converse (Session.start d)

/-- The places where an environment file is looked for: a directory and those that hold it. -/
def envFilePaths : List String :=
  (List.range 32).map fun up => String.join (List.replicate up "../") ++ ".env"

/-- Starts the menu. -/
def run : IO UInt32 := do
  let envFile ← findEnvFile envFilePaths
  let names := menuVariables ++ (envFile.map EnvFile.mentioned).getD []
  let vars ← readVariables names
  let vars := (envFile.map fun content => EnvFile.load content vars).getD vars
  let files ← readFiles (Setup.snapshotPath? vars).toList
  match Setup.ofVariables files vars with
  | .error fault =>
    display [.complaint s!"Error: {fault.shown}"]
    return 1
  | .ok setup =>
    let seed := Uuid.seedOf (← randomNumber)
    let now ← currentMoment
    -- no database is opened: tables begin empty and end with the program
    match setup.stores with
    | .memory => begin (setup.desk (MemoryLedger.empty seed) LockList.empty seed now)
    | .tables => begin (setup.desk (LedgerTables.empty seed) LockTable.empty seed now)

end BalancerImport.Program

/-- The program. -/
def main : IO UInt32 := BalancerImport.Program.run
