import ArrayWatch.Inform.Error
import ArrayWatch.Text.Decimal
import ArrayWatch.Wire.Message

/-!
# Announcements of arrays

An array is announced with its name, and with a list in which its two ports come before the groups
that its data is sent to. There are two groups for each antenna. The port of the monitor channel may
also stand at the start of the next argument.
-/

namespace ArrayWatch

/-- An array as it is announced. -/
structure Announcement where
  name : String
  controlPort : UInt16
  monitorPort : UInt16
  antennas : Nat
  deriving DecidableEq, Repr, Inhabited

namespace Announcement

/-- The parts of a list between commas, without the empty ones. -/
def tokens (text : String) : List (List Char) :=
  (text.toList.splitOn ',').filter (!·.isEmpty)

/-- Reads a port. -/
def port? (token : List Char) : Option UInt16 :=
  (Decimal.read? Decimal.word16 token).map UInt16.ofNat

/-- The port of the monitor channel and the groups: from the list itself, or else from the next
argument. -/
def monitorPort? (rest : List (List Char)) (next : Option String) :
    Option (UInt16 × List (List Char)) :=
  match rest.head?.bind port? with
  | some port => some (port, rest.tail)
  | none =>
    ((next.bind fun text => (text.toList.splitOn ',').head?).bind port?).map (·, rest)

/-- Reads an announcement. -/
def ofInform (m : Message) : Except InformError Announcement :=
  let malformed (fault : AnnouncementFault) : Except InformError Announcement :=
    .error (.announcement fault m.compose)
  match m.arg? 1, m.arg? 2 with
  | none, _ | some "", _ => malformed .missingName
  | some _, none => malformed .missingPorts
  | some name, some endpoints =>
    match tokens endpoints with
    | [] => malformed .badControlPort
    | first :: rest =>
      match port? first with
      | none => malformed .badControlPort
      | some controlPort =>
        match monitorPort? rest (m.arg? 3) with
        | none => malformed .badMonitorPort
        | some (monitorPort, groups) =>
          .ok ⟨name, controlPort, monitorPort, groups.length / 2⟩

def toValue (a : Announcement) : Value :=
  .table [("name", .text a.name), ("control_port", .nat a.controlPort.toNat),
    ("monitor_port", .nat a.monitorPort.toNat), ("antenna_count", .nat a.antennas)]

end Announcement

end ArrayWatch
