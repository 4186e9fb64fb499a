/-!
# Values of documents

What configuration files hold and what the dashboard answers with: scalars, lists, and tables whose
entries keep their order.
-/

namespace ArrayWatch

/-- A moment, in milliseconds since the start of 1970. -/
structure Timestamp where
  millis : Nat
  deriving DecidableEq, Repr, Inhabited

/-- A value of a document. -/
inductive Value where
  | null
  | bool (b : Bool)
  | int (n : Int)
  /-- A number that is written with a fraction or an exponent, as written. -/
  | decimal (text : String)
  /-- A date or a time of day, as written. -/
  | date (text : String)
  | time (t : Timestamp)
  | text (s : String)
  | list (items : List Value)
  | table (entries : List (String × Value))
  deriving Repr, Inhabited

namespace Value

def nat (n : Nat) : Value := .int n

def char (c : Char) : Value := .text (String.singleton c)

/-- `null` where there is nothing. -/
def option {α : Type} (f : α → Value) : Option α → Value
  | some a => f a
  | none => .null

end Value

end ArrayWatch
