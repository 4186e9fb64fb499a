import ArrayWatch.Value

/-!
# Sensors

A sensor keeps the last value and status that were reported for it, as the words that came over the
wire. The status is read as one of the seven known words only where it is asked for.

* `SensorStatus.ofWord?_word`: every status is read back from its word.
* `SensorStatus.ofWord?_eq_some_iff`: no other word is read.
-/

namespace ArrayWatch

/-- The seven statuses that a sensor can report. -/
inductive SensorStatus where
  | nominal | warn | error | failure | unknown | unreachable | inactive
  deriving DecidableEq, Repr, Inhabited

namespace SensorStatus

/-- The word for a status. -/
def word : SensorStatus → String
  | nominal => "nominal"
  | warn => "warn"
  | error => "error"
  | failure => "failure"
  | unknown => "unknown"
  | unreachable => "unreachable"
  | inactive => "inactive"

/-- The statuses, in the order of their definition. -/
def all : List SensorStatus :=
  [nominal, warn, error, failure, unknown, unreachable, inactive]

/-- The status with a word. -/
def ofWord? (text : String) : Option SensorStatus :=
  all.find? fun status => status.word = text

theorem ofWord?_word (status : SensorStatus) : ofWord? status.word = some status := by
  cases status <;> decide

theorem ofWord?_eq_some_iff {text : String} {status : SensorStatus} :
    ofWord? text = some status ↔ text = status.word := by
  constructor
  · intro h
    have hword := List.find?_some (p := fun status : SensorStatus => decide (status.word = text)) h
    exact (of_decide_eq_true hword).symm
  · rintro rfl
    exact ofWord?_word status

def toValue (status : SensorStatus) : Value := .text status.word

end SensorStatus

/-- The last reading of one quantity. -/
structure Sensor where
  name : String
  value : String
  status : String
  updatedAt : Option Timestamp
  deriving DecidableEq, Repr, Inhabited

namespace Sensor

/-- A sensor that has not reported yet. -/
def fresh (name : String) : Sensor :=
  ⟨name, "", SensorStatus.unknown.word, none⟩

/-- The status, where it is one of the known words. -/
def status? (s : Sensor) : Option SensorStatus :=
  SensorStatus.ofWord? s.status

/-- Takes a new reading. -/
def update (s : Sensor) (value status : String) (now : Timestamp) : Sensor :=
  { s with value, status, updatedAt := some now }

def toValue (s : Sensor) : Value :=
  .table [("name", .text s.name), ("value", .text s.value), ("status", .text s.status),
    ("updated_at", .option .time s.updatedAt)]

end Sensor

/-! ## The worst of several statuses -/

namespace SensorStatus

/-- How bad a status is, for the statuses that count: failure is as bad as error. -/
def severity? : SensorStatus → Option Nat
  | nominal => some 1
  | warn => some 2
  | error | failure => some 3
  | unknown | unreachable | inactive => none

/-- The status that stands for a severity. -/
def ofSeverity : Nat → SensorStatus
  | 0 => unknown
  | 1 => nominal
  | 2 => warn
  | _ => error

/-- The worst status of those that count, and `unknown` where none does. -/
def worst (statuses : List (Option SensorStatus)) : SensorStatus :=
  ofSeverity ((statuses.map fun status => (status.bind severity?).getD 0).foldl max 0)

end SensorStatus

end ArrayWatch
