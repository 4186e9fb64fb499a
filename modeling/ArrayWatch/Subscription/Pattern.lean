import ArrayWatch.SensorTree.Device
import ArrayWatch.SensorTree.Path
import ArrayWatch.Text.Quoted

/-!
# Patterns

A pattern names the sensors to subscribe to on every array: a sensor of the array, a device on every
host of a team, or a device on every engine of every host of a team.

* `Pattern.targets` is the list of sensors that a pattern stands for.
-/

namespace ArrayWatch

/-- Why a text is no pattern. -/
inductive PatternError where
  | emptySegment (text : String)
  | badTeam (text : String)
  | segmentCount (text : String) (count : Nat)
  deriving DecidableEq, Repr

def PatternError.message : PatternError → String
  | emptySegment text => "empty segment in " ++ Text.quoted text
  | badTeam text => "bad team in " ++ Text.quoted text
  | segmentCount text count =>
    Text.quoted text ++ " has " ++ toString count ++ " segments, expected 1 to 3"

/-- Sensors to subscribe to. -/
inductive Pattern where
  | array (sensor : String)
  | device (team : Char) (device : String)
  | engineDevice (team : Char) (engineBase device : String)
  deriving DecidableEq, Repr, Inhabited

namespace Pattern

/-- The team that a segment names by its first character. -/
def team? (segment : List Char) : Option Char :=
  segment.head?.filter Char.isAlpha

/-- Reads one to three segments between dots. -/
def parse (text : String) : Except PatternError Pattern :=
  let segments := text.toList.splitOn '.'
  if segments.any List.isEmpty then .error (.emptySegment text)
  else match segments with
    | [sensor] => .ok (.array (.ofList sensor))
    | [team, name] =>
      match team? team with
      | some kind => .ok (.device kind (.ofList name))
      | none => .error (.badTeam text)
    | [team, base, name] =>
      match team? team with
      | some kind => .ok (.engineDevice kind (.ofList base) (.ofList name))
      | none => .error (.badTeam text)
    | _ => .error (.segmentCount text segments.length)

/-- The pattern as a text. A team is written as its letter alone. -/
def text : Pattern → String
  | .array sensor => sensor
  | .device team name => String.singleton team ++ "." ++ name
  | .engineDevice team base name => String.singleton team ++ "." ++ base ++ "." ++ name

/-- The sensors that the pattern stands for: host by host, and engine by engine within a host. -/
def targets (antennas enginesPerHost : Nat) : Pattern → List SensorPath
  | .array sensor => [.array sensor]
  | .device team name =>
    (List.range antennas).map fun i => .host ⟨team, i⟩ name deviceStatus
  | .engineDevice team base name =>
    (List.range antennas).flatMap fun i => (List.range enginesPerHost).map fun j =>
      .engine ⟨team, i⟩ (base ++ toString j) name deviceStatus

def toValue : Pattern → Value
  | .array sensor => .table [("kind", .text "array"), ("sensor", .text sensor)]
  | .device team name =>
    .table [("kind", .text "device"), ("team", .char team), ("device", .text name)]
  | .engineDevice team base name =>
    .table [("kind", .text "engine_device"), ("team", .char team), ("engine_base", .text base),
      ("device", .text name)]

end Pattern

end ArrayWatch
