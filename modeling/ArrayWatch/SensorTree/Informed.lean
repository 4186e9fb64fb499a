import ArrayWatch.Inform.HostMapping
import ArrayWatch.Inform.InputLabel
import ArrayWatch.SensorTree.Basic

/-!
# Host mappings and input labels in the sensor tree

A payload names many hosts. Each part of it is applied on its own, so that one that cannot be read
or names no host does not stop the others; such parts are counted.
-/

namespace ArrayWatch.SensorTree

/-- Gives one host its serial. -/
def applyMapping (t : SensorTree) : Except InformError HostMapping → SensorTree × Nat
  | .error _ => (t, 1)
  | .ok mapping =>
    match t.setSerial mapping.host mapping.serial with
    | .ok changed => (changed, 0)
    | .error _ => (t, 1)

/-- Gives every host its serial, and counts what could not be used. -/
def applyMappings (t : SensorTree) : List (Except InformError HostMapping) → SensorTree × Nat
  | [] => (t, 0)
  | first :: rest =>
    let (changed, faults) := t.applyMapping first
    let (changed, others) := changed.applyMappings rest
    (changed, faults + others)

/-- Gives one channeliser the label of its input. Inputs with an odd number are passed over. -/
def applyLabel (t : SensorTree) : Except InformError InputLabel → SensorTree × Nat
  | .error _ => (t, 1)
  | .ok label =>
    match label.host? with
    | none => (t, 0)
    | some index =>
      match t.setInputLabel index label.label with
      | (changed, .ok ()) => (changed, 0)
      | (changed, .error _) => (changed, 1)

/-- Gives every channeliser the label of its input, and counts what could not be used. -/
def applyLabels (t : SensorTree) : List (Except InformError InputLabel) → SensorTree × Nat
  | [] => (t, 0)
  | first :: rest =>
    let (changed, faults) := t.applyLabel first
    let (changed, others) := changed.applyLabels rest
    (changed, faults + others)

end ArrayWatch.SensorTree
