import ArrayWatch.Toml.Scalar

/-!
# Statements of TOML

A document is a sequence of statements, each on lines of its own: a key with its value, the header
of a table, or the header of one more table in an array of tables.
-/

namespace ArrayWatch.Toml

/-! ## Keys -/

/-- The parts of a dotted key. -/
abbrev Path := List String

/-- How deep values may stand in each other, and how many parts a key may have. -/
def depthLimit : Nat := 79

/-- The characters of keys without quotes. -/
def isKeyChar (c : Char) : Bool := c.isAlphanum || c == '-' || c == '_'

/-- Reads one part of a key. -/
def keyPart? : List Char → Option (String × List Char)
  | '"' :: rest => (basic rest).map fun (text, rest) => (.ofList text, rest)
  | '\'' :: rest => (literal rest).map fun (text, rest) => (.ofList text, rest)
  | cs =>
    let part := cs.takeWhile isKeyChar
    if part.isEmpty then none else some (.ofList part, cs.dropWhile isKeyChar)

/-- Reads the parts of a key, with blanks around them. At most `limit` parts are read. -/
def keyParts? : (limit : Nat) → List Char → Option (Path × List Char)
  | 0, _ => none
  | limit + 1, cs => do
    let (part, rest) ← keyPart? (skipBlanks cs)
    match skipBlanks rest with
    | '.' :: rest =>
      let (path, rest) ← keyParts? limit rest
      return (part :: path, rest)
    | rest => return ([part], rest)

/-- Reads a key. -/
def key? (cs : List Char) : Option (Path × List Char) := keyParts? depthLimit cs

/-! ## Values -/

/-- Reads one item. -/
abbrev Reader (α : Type) := List Char → Option (α × List Char)

/-- Reads items with commas between them. `more` says what is to be done where a comma could
stand: nothing where the items end, or else the characters of the next item. -/
def separated {α : Type} (item : Reader α) (more : List Char → Option (List Char))
    (cs : List Char) : Option (List α × List Char) :=
  match item cs with
  | none => none
  | some (first, rest) =>
    match more rest with
    | none => some ([first], rest)
    | some next =>
      if next.length < cs.length then
        (separated item more next).map fun (items, rest) => (first :: items, rest)
      else none
termination_by cs.length

/-- The next item of an array, unless the array ends. -/
def nextItem? (cs : List Char) : Option (List Char) :=
  match cs with
  | ',' :: rest => if (skipLines rest).head? == some ']' then none else some rest
  | _ => none

/-- Goes past the bracket at the end of an array, with or without a comma before it. -/
def arrayEnd? : List Char → Option (List Char)
  | ']' :: rest => some rest
  | ',' :: rest =>
    match skipLines rest with
    | ']' :: rest => some rest
    | _ => none
  | _ => none

/-- Reads the items of an array and its end. -/
def array? (value : Reader Value) (cs : List Char) : Option (Value × List Char) :=
  match skipLines cs with
  | ']' :: rest => some (.list [], rest)
  | cs => do
    let item : Reader Value := fun cs => do
      let (v, rest) ← value (skipLines cs)
      return (v, skipLines rest)
    let (items, rest) ← separated item nextItem? cs
    return (.list items, ← arrayEnd? rest)

/-- Reads a key and its value. -/
def keyValue? (value : Reader Value) : Reader (Path × Value) := fun cs => do
  let (path, rest) ← key? cs
  match rest with
  | '=' :: rest =>
    let (v, rest) ← value (skipBlanks rest)
    return ((path, v), rest)
  | _ => none

/-- The next entry of a table in braces. -/
def nextEntry? : List Char → Option (List Char)
  | ',' :: rest => some rest
  | _ => none

/-- Reads the entries of a table in braces, and its end. `build` makes the table of its entries. -/
def inlineTable? (build : List (Path × Value) → Option Value) (value : Reader Value)
    (cs : List Char) : Option (Value × List Char) := do
  match skipBlanks cs with
  | '}' :: rest => return (← build [], rest)
  | cs =>
    let entry : Reader (Path × Value) := fun cs => do
      let (entry, rest) ← keyValue? value cs
      return (entry, skipBlanks rest)
    let (entries, rest) ← separated entry nextEntry? cs
    match rest with
    | '}' :: rest => return (← build entries, rest)
    | _ => none

/-- Reads a value, in which values stand no deeper than `depth`. -/
def value? (build : List (Path × Value) → Option Value) : (depth : Nat) → Reader Value
  | depth, cs =>
    match cs, depth with
    | '[' :: _, 0 | '\x7b' :: _, 0 => none
    | '[' :: rest, depth + 1 => array? (value? build depth) rest
    | '\x7b' :: rest, depth + 1 => inlineTable? build (value? build depth) rest
    | '"' :: _, _ | '\'' :: _, _ => (string cs).map fun (text, rest) => (.text (.ofList text), rest)
    | _, _ => scalar? cs

/-! ## Statements -/

/-- A line of a document. -/
inductive Statement where
  | entry (path : Path) (value : Value)
  | table (path : Path)
  | arrayTable (path : Path)
  deriving Repr, Inhabited

/-- Reads a statement, without the end of its line. -/
def statement? (build : List (Path × Value) → Option Value) : Reader Statement
  | '[' :: '[' :: cs => do
    let (path, rest) ← key? cs
    match rest with
    | ']' :: ']' :: rest => return (.arrayTable path, rest)
    | _ => none
  | '[' :: cs => do
    let (path, rest) ← key? cs
    match rest with
    | ']' :: rest => return (.table path, rest)
    | _ => none
  | cs => do
    let ((path, v), rest) ← keyValue? (value? build depthLimit) cs
    return (.entry path v, rest)

/-- Reads the statements of a document. -/
def statements? (build : List (Path × Value) → Option Value) (cs : List Char) :
    Option (List Statement) :=
  match skipLines cs with
  | [] => some []
  | start =>
    if (skipComment start).isEmpty then some []
    else do
      let (first, rest) ← statement? build start
      let next ← lineEnd? rest
      if next.length < cs.length then
        return first :: (← statements? build next)
      else none
termination_by cs.length

end ArrayWatch.Toml
