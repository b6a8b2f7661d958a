import BalancerImport.Import.Settings
import BalancerImport.Text.Case
import BalancerImport.Text.WordTable

/-!
# Environment files

A file of assignments such as `NAME=value`, which add to the variables of the environment but never
change one. A value may be quoted, use other variables, and be followed by a comment. Reading stops
at the first statement that is malformed.

* `EnvFile.statements`: the statements of a file, which may go over several lines within quotes;
* `EnvFile.readValue`: a value with its quotes, escapes and variables;
* `EnvFile.load`: the variables after a file was read.
-/

namespace BalancerImport.EnvFile

open Text

/-! ## Statements -/

/-- Where a statement stands at some character. -/
inductive Standing where
  | plain
  /-- After a single blank, where a comment may begin. -/
  | gap
  | escaped
  | single
  | singleEscaped
  | double
  | doubleEscaped
  deriving DecidableEq, Repr

/-- Where a statement stands after a character outside of quotes. -/
def Standing.enter (c : Char) : Standing :=
  if c == '\\' then .escaped
  else if c == '"' then .double
  else if c == '\'' then .single
  else .plain

/-- Where a statement stands after a character; `none` if a comment begins with it. -/
def Standing.next? (s : Standing) (c : Char) : Option Standing :=
  match s with
  | .gap => if c == '#' then none else some (.enter c)
  | .plain => some (if isBlank c && c != '\n' && c != '\r' then .gap else .enter c)
  | .escaped => some .plain
  | .single => some (if c == '\\' then .singleEscaped else if c == '\'' then .plain else .single)
  | .singleEscaped => some .single
  | .double => some (if c == '\\' then .doubleEscaped else if c == '"' then .plain else .double)
  | .doubleEscaped => some .double

/-- The characters before a comment, and where the statement stands if there is none. -/
def scan : Standing → List Char → List Char × Option Standing
  | s, [] => ([], some s)
  | s, c :: cs =>
    match s.next? c with
    | none => ([], none)
    | some s =>
      let (kept, stop) := scan s cs
      (c :: kept, stop)

/-- The lines of a file, each with the line feed that ends it. -/
def physicalLines (line : List Char) : List Char → List (List Char)
  | [] => if line.isEmpty then [] else [line.reverse]
  | c :: cs =>
    if c == '\n' then (c :: line).reverse :: physicalLines [] cs else physicalLines (c :: line) cs

/-- Whether nothing but a comment is written. -/
def isComment (cs : List Char) : Bool := (cs.dropWhile isBlank).head? == some '#'

/-- The statements of lines, after characters that are `held` from lines before; `none` stands for a
statement that the file leaves open. -/
def statements : List Char → Standing → List (List Char) → List (Option (List Char))
  | _, s, [] => if s = .plain then [] else [none]
  | held, s, line :: lines =>
    if isComment (held ++ line) then some [] :: statements [] .plain lines
    else
      match scan s line with
      | (kept, none) => some (held ++ kept) :: statements [] .plain lines
      | (_, some .plain) => some (held ++ line) :: statements [] .plain lines
      | (_, some s) => statements (held ++ line) s lines

/-! ## Values -/

/-- How the next character of a value is read. `quoted` is whether double quotes are open. -/
inductive Mode where
  | plain (quoted : Bool)
  | escaped (quoted : Bool)
  /-- Within single quotes. -/
  | single
  /-- After the value, where only a comment may follow. -/
  | ended
  /-- Within the name of a variable, of which `name` was read. -/
  | name (quoted : Bool) (name : List Char)
  /-- Within braces around the name of a variable, of which `name` was read. -/
  | braced (quoted : Bool) (name : List Char)
  deriving DecidableEq, Repr

/-- What a variable holds, nothing if it is not set. -/
def valueOf (vars : Variables) (name : List Char) : List Char :=
  ((vars (String.ofList name)).getD "").toList

/-- The value that a mode leaves at the end, if it may end there. -/
def finish? (vars : Variables) : Mode → Option (List Char)
  | .plain quoted => if quoted then none else some []
  | .escaped quoted => if quoted then none else some []
  | .single => none
  | .ended => some []
  | .name quoted name => if quoted then none else some (valueOf vars name)
  | .braced _ _ => none

/-- The mode after a character, and what it adds to the value; `none` if it may not stand there. -/
def step? (vars : Variables) (m : Mode) (c : Char) : Option (Mode × List Char) :=
  match m with
  | .ended => if c == ' ' || c == '\t' then some (.ended, []) else none
  | .escaped quoted =>
    if c == 'n' then some (.plain quoted, ['\n'])
    else if ['\\', '\'', '"', '$', ' '].contains c then some (.plain quoted, [c])
    else none
  | .single => if c == '\'' then some (.plain false, []) else some (.single, [c])
  | .name quoted name =>
    if inRanges wordRanges c.toNat then some (.name quoted (name ++ [c]), [])
    else if c == '\x7b' && name.isEmpty then some (.braced quoted [], [])
    else if c == '$' then some (.name quoted [], valueOf vars name)
    else some (.plain quoted, valueOf vars name ++ [c])
  | .braced quoted name =>
    if c == '\x7d' then some (.plain quoted, valueOf vars name)
    else some (.braced quoted (name ++ [c]), [])
  | .plain quoted =>
    if c == '$' then some (.name quoted [], [])
    else if c == '\\' then some (.escaped quoted, [])
    else if quoted then if c == '"' then some (.plain false, []) else some (.plain true, [c])
    else if c == '\'' then some (.single, [])
    else if c == '"' then some (.plain true, [])
    else if c == ' ' || c == '\t' then some (.ended, [])
    else some (.plain false, [c])

/-- Reads a value from a mode on. -/
def readValue (vars : Variables) : Mode → List Char → Option (List Char)
  | m, [] => finish? vars m
  | m, c :: cs =>
    if m = .ended ∧ c = '#' then some []
    else
      match step? vars m c with
      | none => none
      | some (m, added) => (readValue vars m cs).map (added ++ ·)

/-! ## Assignments -/

/-- Whether a name may begin with a character. -/
def beginsName (c : Char) : Bool := c.isAlpha || c == '_'

/-- Whether a name may hold a character. -/
def inName (c : Char) : Bool := c.isAlphanum || c == '_' || c == '.'

/-- A name, and what follows it after white space. -/
def readName? : List Char → Option (String × List Char)
  | [] => none
  | c :: cs =>
    if beginsName c then
      some (String.ofList (c :: cs.takeWhile inName), (cs.dropWhile inName).dropWhile isBlank)
    else none

/-- What follows an equals sign after white space. -/
def afterEquals? : List Char → Option (List Char)
  | '=' :: cs => some (cs.dropWhile isBlank)
  | _ => none

/-- The name and the text of an assignment, which `export` may precede. -/
def readAssignment? (cs : List Char) : Option (String × List Char) := do
  let (name, rest) ← readName? cs
  match afterEquals? rest with
  | some value => return (name, value)
  | none =>
    if name = "export" then
      let (name, rest) ← readName? rest
      let value ← afterEquals? rest
      return (name, value)
    else none

/-- What a statement says: nothing, or an assignment. -/
inductive Statement where
  | nothing
  | assign (name value : String)
  deriving DecidableEq, Repr

/-- Reads a statement. -/
def readStatement? (vars : Variables) (cs : List Char) : Option Statement :=
  match trimChars cs with
  | [] => some .nothing
  | '#' :: _ => some .nothing
  | cs =>
    match readAssignment? cs with
    | none => none
    | some (name, '#' :: _) => some (.assign name "")
    | some (name, value) =>
      (readValue vars (.plain false) value).map fun v => .assign name (String.ofList v)

/-! ## Files -/

/-- Variables with an entry added, unless its name is set already. -/
def extend (name value : String) (vars : Variables) : Variables :=
  fun key => match vars key with
    | some v => some v
    | none =>
      match entryValue? key (name, value) with
      | some v => if (vars name).isSome then none else some v
      | none => none

/-- The variables after some statements, up to the first that is malformed. -/
def apply (vars : Variables) : List (Option (List Char)) → Variables
  | [] => vars
  | none :: _ => vars
  | some cs :: rest =>
    match readStatement? vars cs with
    | none => vars
    | some .nothing => apply vars rest
    | some (.assign name value) => apply (extend name value vars) rest

/-- A text without the byte order mark before it. -/
def withoutMark (cs : List Char) : List Char :=
  match cs with
  | c :: rest => if c.toNat = 0xFEFF then rest else cs
  | [] => []

/-- The longest runs of characters that satisfy `p`. -/
def runs (p : Char → Bool) (cs : List Char) : List String :=
  ((cs.splitOnP fun c => !p c).filter fun run => !run.isEmpty).map String.ofList

/-- What stands between braces after a dollar sign, wherever there is one. -/
def bracedNames : List Char → List String
  | [] => []
  | '$' :: '\x7b' :: cs => String.ofList (cs.takeWhile fun c => c != '\x7d') :: bracedNames cs
  | _ :: cs => bracedNames cs

/-- The names of variables that a file may use or assign. -/
def mentioned (content : String) : List String :=
  let isWord (c : Char) : Bool := inRanges wordRanges c.toNat
  runs isWord content.toList ++ runs (fun c => isWord c || inName c) content.toList ++
    bracedNames content.toList

/-- The variables after a file was read. -/
def load (content : String) (vars : Variables) : Variables :=
  apply vars (statements [] .plain (physicalLines [] (withoutMark content.toList)))

end BalancerImport.EnvFile
