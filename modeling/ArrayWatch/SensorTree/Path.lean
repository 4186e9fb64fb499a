import ArrayWatch.SensorTree.Error

/-!
# Sensor names

The name of a sensor says where it is: `device-status` on the array itself,
`fhost07.spead-rx.device-status` on a device of a host, `xhost03.xeng2.vacc.device-status` on a
device of an engine.
-/

namespace ArrayWatch

/-- The place of a sensor. -/
inductive SensorPath where
  | array (sensor : String)
  | host (host : HostId) (device sensor : String)
  | engine (host : HostId) (engine device sensor : String)
  deriving DecidableEq, Repr

namespace SensorPath

/-- The segments of a name. -/
def segments (name : String) : List (List Char) :=
  name.toList.splitOn '.'

/-- Reads a name of one, three or four segments, none of them empty. -/
def parse (name : String) : Except TreeError SensorPath :=
  let tokens := segments name
  let place : Option SensorPath :=
    if tokens.any List.isEmpty then none
    else match tokens with
      | [sensor] => some (.array (.ofList sensor))
      | [token, device, sensor] =>
        (HostId.parse? token).map (.host · (.ofList device) (.ofList sensor))
      | [token, unit, device, sensor] =>
        (HostId.parse? token).map (.engine · (.ofList unit) (.ofList device) (.ofList sensor))
      | _ => none
  match place with
  | some path => .ok path
  | none => .error (.malformedName name)

/-- The segments of a place, joined by dots. -/
def text : SensorPath → String
  | .array sensor => sensor
  | .host id device sensor => id.text ++ "." ++ device ++ "." ++ sensor
  | .engine id unit device sensor => id.text ++ "." ++ unit ++ "." ++ device ++ "." ++ sensor

end SensorPath

end ArrayWatch
