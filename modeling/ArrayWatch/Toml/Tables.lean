import ArrayWatch.Toml.Syntax

/-!
# Tables of TOML

The statements of a document make a tree of tables. Each table says how it came to be, for this
decides who may add to it: a table is opened by one header at most, and a dotted key adds only to
tables that dotted keys have made.
-/

namespace ArrayWatch.Toml

/-- How a table came to be. -/
inductive Origin where
  /-- By a header of its own. -/
  | header
  /-- By the header of a table inside it. -/
  | implied
  /-- By a dotted key. -/
  | dotted
  deriving DecidableEq, Repr

/-- What is found under a key. -/
inductive Node where
  | leaf (v : Value)
  | table (origin : Origin) (entries : List (String × Node))
  /-- The tables of an array: those that are complete, and the last. -/
  | tables (complete : List (List (String × Node))) (last : List (String × Node))
  deriving Repr, Inhabited

/-- The entries of a table. -/
abbrev Entries := List (String × Node)

/-! ## Entries -/

/-- Puts a node under a key: in the place of what was there, or else at the end. -/
def put (key : String) (node : Node) : Entries → Entries
  | [] => [(key, node)]
  | (other, old) :: rest =>
    if key == other then (key, node) :: rest else (other, old) :: put key node rest

/-- Puts a value under a dotted key. `takesKeys` says whether keys may be put right into this
table. -/
def insert (takesKeys : Bool) (entries : Entries) (path : Path) (v : Value) : Option Entries :=
  match path with
  | [] => none
  | [key] =>
    if takesKeys && (entries.lookup key).isNone then some (put key (.leaf v) entries) else none
  | key :: path =>
    match entries.lookup key with
    | none => (insert true [] path v).map fun made => put key (.table .dotted made) entries
    | some (.table .header _) | some (.leaf _) => none
    | some (.table origin inner) =>
      (insert (origin = .dotted) inner path v).map fun changed =>
        put key (.table origin changed) entries
    | some (.tables complete last) =>
      (insert false last path v).map fun changed => put key (.tables complete changed) entries

/-- Puts values under dotted keys, one after the other. -/
def insertAll (entries : Entries) (pairs : List (Path × Value)) : Option Entries :=
  pairs.foldlM (fun entries (path, v) => insert true entries path v) entries

/-- Changes what is found at a path of headers. In an array of tables the path goes on in the last
of them. -/
def modify (change : Option Node → Option Node) (entries : Entries) (path : Path) :
    Option Entries :=
  match path with
  | [] => none
  | [key] => (change (entries.lookup key)).map fun node => put key node entries
  | key :: path =>
    match entries.lookup key with
    | none => (modify change [] path).map fun made => put key (.table .implied made) entries
    | some (.leaf _) => none
    | some (.table origin inner) =>
      (modify change inner path).map fun changed => put key (.table origin changed) entries
    | some (.tables complete last) =>
      (modify change last path).map fun changed => put key (.tables complete changed) entries

/-! ## Sections -/

/-- Opens the table of a header, and puts the pairs below the header into it. -/
def openTable (pairs : List (Path × Value)) : Option Node → Option Node
  | none => (insertAll [] pairs).map (.table .header)
  | some (.table .implied inner) => (insertAll inner pairs).map (.table .header)
  | some _ => none

/-- Adds one more table to an array of tables. -/
def openArrayTable (pairs : List (Path × Value)) : Option Node → Option Node
  | none => (insertAll [] pairs).map (.tables [])
  | some (.tables complete last) => (insertAll [] pairs).map (.tables (complete ++ [last]))
  | some _ => none

/-- The pairs before the first header, and the statements from it on. -/
def splitPairs : List Statement → List (Path × Value) × List Statement
  | .entry path v :: rest =>
    let (pairs, rest) := splitPairs rest
    ((path, v) :: pairs, rest)
  | rest => ([], rest)

/-- Puts the sections of a document into the tree. -/
def addSections (entries : Entries) : List Statement → Option Entries
  | [] => some entries
  | .entry _ _ :: rest => addSections entries rest
  | .table path :: rest => do
    addSections (← modify (openTable (splitPairs rest).1) entries path) rest
  | .arrayTable path :: rest => do
    addSections (← modify (openArrayTable (splitPairs rest).1) entries path) rest

/-- The tree of a document. -/
def ofStatements (statements : List Statement) : Option Entries := do
  addSections (← insertAll [] (splitPairs statements).1) statements

/-! ## Values -/

mutual

/-- A node as a value. -/
def Node.toValue : Node → Value
  | .leaf v => v
  | .table _ entries => .table (entriesToValue entries)
  | .tables complete last => .list (tablesToValue complete ++ [.table (entriesToValue last)])

/-- The entries of a table as values. -/
def entriesToValue : List (String × Node) → List (String × Value)
  | [] => []
  | (key, node) :: rest => (key, node.toValue) :: entriesToValue rest

/-- Tables as values. -/
def tablesToValue : List (List (String × Node)) → List Value
  | [] => []
  | entries :: rest => .table (entriesToValue entries) :: tablesToValue rest

end

/-- The value of a table in braces. -/
def inlineTable (pairs : List (Path × Value)) : Option Value :=
  (insertAll [] pairs).map fun entries => .table (entriesToValue entries)

end ArrayWatch.Toml
