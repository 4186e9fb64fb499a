import ArrayWatch.Inform.Error
import ArrayWatch.SensorTree.HostId
import ArrayWatch.Text.Utf8

/-!
# Host mappings

Which board works as which host: records of thirty bytes each, in which the serial, the letter of
the team and the number of the host stand at fixed offsets. A record that cannot be read does not
hide the others.
-/

namespace ArrayWatch

/-- The serial of the board that works as a host. -/
structure HostMapping where
  host : HostId
  serial : String
  deriving DecidableEq, Repr, Inhabited

namespace HostMapping

/-- The number of bytes in a record. -/
def recordLength : Nat := 30

/-- The offset and the length of the serial, of the team and of the number in a record. -/
def serialField : Nat × Nat := (8, 6)
def teamField : Nat × Nat := (21, 1)
def numberField : Nat × Nat := (26, 2)

/-- A part of the payload by its bytes. The part has to be there, and has to be whole characters
of the payload. -/
def slice? (payload : List UInt8) (start length : Nat) : Option (List Char) :=
  if start + length ≤ payload.length then Utf8.decode? ((payload.drop start).take length) else none

/-- A field of the record that starts at `base`. -/
def field (payload : List UInt8) (base : Nat) (place : Nat × Nat) :
    Except InformError (List Char) :=
  match slice? payload (base + place.1) place.2 with
  | some cs => .ok cs
  | none => .error (.mappingTruncated (base + place.1))

/-- Reads the record that starts at `base`. -/
def ofRecord (payload : List UInt8) (base : Nat) : Except InformError HostMapping := do
  let serial ← field payload base serialField
  let letter ← field payload base teamField
  match letter.head?.filter Char.isAlpha with
  | none => .error (.badHostType base)
  | some team =>
    let digits ← field payload base numberField
    if digits.all Char.isDigit then
      .ok ⟨⟨team, Nat.ofDigitChars 10 digits 0⟩, .ofList serial⟩
    else .error (.badHostNumber (.ofList digits) base)

/-- Reads a number of records. -/
def ofPayload (payload : String) (records : Nat) : List (Except InformError HostMapping) :=
  let bytes := Utf8.encode payload.toList
  (List.range records).map fun i => ofRecord bytes (i * recordLength)

def toValue (m : HostMapping) : Value :=
  .table [("team", .char m.host.team), ("index", .nat m.host.index), ("serial", .text m.serial)]

end HostMapping

end ArrayWatch
