import ArrayWatch.SensorTree.Host

/-!
# Teams

All hosts of one kind within an array. The number of hosts is fixed when the team is made.
-/

namespace ArrayWatch

/-- The hosts of one kind, numbered from zero. -/
structure Team where
  kind : Char
  hosts : List Host
  deriving DecidableEq, Repr, Inhabited

namespace Team

/-- A team of empty hosts. -/
def empty (kind : Char) (size : Nat) : Team :=
  ⟨kind, (List.range size).map fun index => .empty ⟨kind, index⟩⟩

def size (t : Team) : Nat := t.hosts.length

def host? (t : Team) (index : Nat) : Option Host := t.hosts[index]?

/-- Changes one host. -/
def modify (t : Team) (index : Nat) (change : Host → Except TreeError Host) :
    Except TreeError Team :=
  match t.host? index with
  | some host => (change host).map fun changed => { t with hosts := t.hosts.set index changed }
  | none => .error (.noHost t.kind index t.size)

def ensureDevice (t : Team) (index : Nat) (device sensor : String) : Except TreeError Team :=
  t.modify index fun host => .ok (host.ensureDevice device sensor)

def ensureEngine (t : Team) (index : Nat) (engine device sensor : String) :
    Except TreeError Team :=
  t.modify index fun host => .ok (host.ensureEngine engine device sensor)

def updateDevice (t : Team) (index : Nat) (device sensor value status : String)
    (now : Timestamp) : Except TreeError Team :=
  t.modify index fun host => host.updateDevice device sensor value status now

def updateEngine (t : Team) (index : Nat) (engine device sensor value status : String)
    (now : Timestamp) : Except TreeError Team :=
  t.modify index fun host => host.updateEngine engine device sensor value status now

def setSerial (t : Team) (index : Nat) (serial : String) : Except TreeError Team :=
  t.modify index fun host => .ok (host.setSerial serial)

def setInputLabel (t : Team) (index : Nat) (label : String) : Except TreeError Team :=
  t.modify index fun host => .ok (host.setInputLabel label)

def toValue (t : Team) : Value :=
  .table [("kind", .char t.kind), ("hosts", .list (t.hosts.map Host.toValue))]

end Team

end ArrayWatch
