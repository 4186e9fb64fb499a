import ArrayWatch.SensorTree.HostId

/-!
# Failures of the sensor tree

Why a sensor is not found, and the words for it.
-/

namespace ArrayWatch

/-- Why a name does not lead to a sensor. -/
inductive TreeError where
  | noSensor (sensor device : String)
  | noDevice (device : String)
  | noEngine (engine : String) (host : HostId)
  | malformedName (name : String)
  | unknownTeam (team : Char)
  | noHost (team : Char) (index size : Nat)
  deriving DecidableEq, Repr

namespace TreeError

def message : TreeError → String
  | noSensor sensor device => "Not found: sensor " ++ sensor ++ " on device " ++ device
  | noDevice device => "Not found: device " ++ device
  | noEngine engine host => "Not found: engine " ++ engine ++ " on " ++ host.text
  | malformedName name => "Malformed sensor name: " ++ name
  | unknownTeam team => "Unknown team: " ++ String.singleton team
  | noHost team index size =>
    "Host index " ++ toString index ++ " out of range for team " ++ String.singleton team ++
      " (" ++ toString size ++ " hosts)"

/-- Whether the name was understood and only nothing is subscribed there. -/
def isNotFound : TreeError → Bool
  | noSensor .. | noDevice .. | noEngine .. => true
  | malformedName .. | unknownTeam .. | noHost .. => false

end TreeError

end ArrayWatch
