import ArrayWatch.Value

/-!
# Fields of records

A record is read from a table, where its fields have names, or from a list, where they have places.
A field that is not there has its default.
-/

namespace ArrayWatch

namespace Value

def bool? : Value → Option Bool
  | .bool b => some b
  | _ => none

def text? : Value → Option String
  | .text s => some s
  | _ => none

/-- A number from zero to `limit`. -/
def nat? (limit : Nat) : Value → Option Nat
  | .int n => if 0 ≤ n then some n.toNat |>.filter (· ≤ limit) else none
  | _ => none

/-- A list whose items are all read. -/
def list? {α : Type} (read : Value → Option α) : Value → Option (List α)
  | .list items => items.mapM read
  | _ => none

end Value

/-- The fields of a record, by their names or by their places. -/
inductive Fields where
  | named (entries : List (String × Value))
  | placed (items : List Value)
  deriving Repr, Inhabited

namespace Fields

/-- The fields of a value. A date is a record too, but has no field that is asked for. -/
def ofValue? : Value → Option Fields
  | .table entries => some (.named entries)
  | .date _ => some (.named [])
  | .list items => some (.placed items)
  | _ => none

/-- The value of a field. -/
def value? (fields : Fields) (name : String) (place : Nat) : Option Value :=
  match fields with
  | .named entries => entries.lookup name
  | .placed items => items[place]?

/-- Whether there are no more values in a list than the record has fields. -/
def fits (fields : Fields) (size : Nat) : Bool :=
  match fields with
  | .named _ => true
  | .placed items => items.length ≤ size

/-- Reads a field that may be missing. -/
def read {α : Type} (fields : Fields) (name : String) (place : Nat) (reader : Value → Option α)
    (default : α) : Option α :=
  match fields.value? name place with
  | none => some default
  | some v => reader v

/-- Reads a field that has to be there. -/
def required {α : Type} (fields : Fields) (name : String) (place : Nat)
    (reader : Value → Option α) : Option α :=
  (fields.value? name place).bind reader

end Fields

end ArrayWatch
