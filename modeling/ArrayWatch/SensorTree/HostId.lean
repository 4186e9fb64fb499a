import ArrayWatch.Text.Decimal
import ArrayWatch.Value

/-!
# Host identities

A host is known by the letter of its team and its number, written `fhost07`.
-/

namespace ArrayWatch

/-- The team letter and the number of a host, counted from zero. -/
structure HostId where
  team : Char
  index : Nat
  deriving DecidableEq, Repr, Inhabited

namespace HostId

/-- The letter, the word `host`, and at least two digits. -/
def text (id : HostId) : String :=
  String.ofList (id.team :: "host".toList ++ Decimal.writePadded id.index)

/-- Reads an ASCII letter, the word `host`, and at least two digits of a 64-bit number. -/
def parse? (token : List Char) : Option HostId :=
  match token with
  | team :: 'h' :: 'o' :: 's' :: 't' :: digits =>
    if team.isAlpha && 2 ≤ digits.length then
      (Decimal.digits? Decimal.word64 digits).map (⟨team, ·⟩)
    else none
  | _ => none

def toValue (id : HostId) : Value :=
  .table [("team", .char id.team), ("index", .nat id.index)]

end HostId

end ArrayWatch
