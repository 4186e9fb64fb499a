import ArrayWatch.SensorTree.Path
import ArrayWatch.SensorTree.Team

/-!
# The sensor tree of an array

The sensors of the array itself, and its teams. A team is made with one host for each antenna where
its letter is first seen.
-/

namespace ArrayWatch

/-- The letter of the channelisers. -/
def channeliserTeam : Char := 'f'

/-- The letter of the cross-correlators. -/
def correlatorTeam : Char := 'x'

/-- Everything that is known about the sensors of an array. -/
structure SensorTree where
  antennas : Nat
  top : Device
  teams : List Team
  deriving DecidableEq, Repr, Inhabited

namespace SensorTree

/-- The tree of an array that has not reported anything. -/
def empty (name : String) (antennas : Nat) : SensorTree :=
  ⟨antennas, .empty name, [.empty channeliserTeam antennas, .empty correlatorTeam antennas]⟩

def team? (t : SensorTree) (kind : Char) : Option Team :=
  Keyed.get? Team.kind kind t.teams

/-- The host with an identity. -/
def host? (t : SensorTree) (id : HostId) : Option Host :=
  (t.team? id.team).bind (·.host? id.index)

/-- The sensor at a place. -/
def sensor? (t : SensorTree) : SensorPath → Option Sensor
  | .array sensor => t.top.sensor? sensor
  | .host id device sensor =>
    (t.host? id).bind fun host => (host.device? device).bind (·.sensor? sensor)
  | .engine id engine device sensor =>
    (t.host? id).bind fun host => (host.engine? engine).bind fun e =>
      (e.device? device).bind (·.sensor? sensor)

/-- Makes sure that there is a team of a kind. -/
def ensureTeam (t : SensorTree) (kind : Char) : SensorTree :=
  { t with teams := Keyed.upsert Team.kind kind (.empty kind t.antennas) id t.teams }

/-- Changes a team that is there. -/
def modifyTeam (t : SensorTree) (kind : Char) (change : Team → Except TreeError Team) :
    Except TreeError SensorTree := do
  return { t with teams := ← Keyed.update Team.kind kind (.unknownTeam kind) change t.teams }

/-- The tree and nothing else, or the tree as it was and the failure. -/
def orElse (t : SensorTree) : Except TreeError SensorTree → SensorTree × Except TreeError Unit
  | .ok changed => (changed, .ok ())
  | .error e => (t, .error e)

/-- Changes a team, which is made first where the letter is new. A failure leaves the new team. -/
def modifyTeamEnsured (t : SensorTree) (kind : Char) (change : Team → Except TreeError Team) :
    SensorTree × Except TreeError Unit :=
  let ensured := t.ensureTeam kind
  ensured.orElse (ensured.modifyTeam kind change)

/-- Makes sure that there is a sensor at a place. -/
def ensure (t : SensorTree) : SensorPath → SensorTree × Except TreeError Unit
  | .array sensor => ({ t with top := t.top.ensure sensor }, .ok ())
  | .host id device sensor => t.modifyTeamEnsured id.team (·.ensureDevice id.index device sensor)
  | .engine id engine device sensor =>
    t.modifyTeamEnsured id.team (·.ensureEngine id.index engine device sensor)

/-- Gives a reading to the sensor at a place. -/
def update (t : SensorTree) (path : SensorPath) (value status : String) (now : Timestamp) :
    Except TreeError SensorTree :=
  match path with
  | .array sensor => do
    return { t with top := ← t.top.update sensor value status now }
  | .host id device sensor =>
    t.modifyTeam id.team (·.updateDevice id.index device sensor value status now)
  | .engine id engine device sensor =>
    t.modifyTeam id.team (·.updateEngine id.index engine device sensor value status now)

/-- Gives a reading to the sensor that a name leads to. -/
def updateByName (t : SensorTree) (name value status : String) (now : Timestamp) :
    Except TreeError SensorTree := do
  t.update (← SensorPath.parse name) value status now

/-- Takes the serial of a host. -/
def setSerial (t : SensorTree) (id : HostId) (serial : String) : Except TreeError SensorTree :=
  t.modifyTeam id.team (·.setSerial id.index serial)

/-- Takes the label of the input of a channeliser. -/
def setInputLabel (t : SensorTree) (index : Nat) (label : String) :
    SensorTree × Except TreeError Unit :=
  t.modifyTeamEnsured channeliserTeam (·.setInputLabel index label)

end SensorTree

end ArrayWatch
