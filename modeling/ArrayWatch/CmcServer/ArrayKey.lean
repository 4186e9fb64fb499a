import ArrayWatch.CmcServer.Basic
import ArrayWatch.Text.Decimal

/-!
# Keys of arrays

People call an array of a CMC by its place in the list, counted from one, or by its name. A key of
digits is a place. A number that is too great for a place is taken for a name.
-/

namespace ArrayWatch

/-- How an array is called. -/
inductive ArrayKey where
  | position (place : Nat)
  | name (text : String)
  deriving DecidableEq, Repr

namespace ArrayKey

def parse (text : String) : ArrayKey :=
  match Decimal.digits? Decimal.word64 text.toList with
  | some place => .position place
  | none => .name text

/-- The index that a key leads to in a list of names. -/
def index? (key : ArrayKey) (names : List String) : Option Nat :=
  match key with
  | .position 0 => none
  | .position (i + 1) => if i < names.length then some i else none
  | .name text => names.findIdx? (· == text)

/-- The item that a key leads to. -/
def find? {α : Type} (key : ArrayKey) (nameOf : α → String) (items : List α) : Option α :=
  (key.index? (items.map nameOf)).bind (items[·]?)

end ArrayKey

/-- The array that a text leads to. -/
def CmcServer.findArray? (s : CmcServer) (key : String) : Option CorrelatorArray :=
  (ArrayKey.parse key).find? CorrelatorArray.name s.arrays

end ArrayWatch
