import ArrayWatch.Wire.Message

/-!
# Sensor reports

An inform that tells about one sensor has the name of the sensor, its status and its value as third,
fourth and fifth argument.
-/

namespace ArrayWatch

/-- What an inform tells about one sensor. -/
structure SensorReport where
  sensor : String
  status : String
  value : String
  /-- How many of the three words the inform did not have. -/
  missing : Nat
  deriving DecidableEq, Repr

namespace SensorReport

/-- An update of a sensor that was asked for. -/
def updateName : String := "sensor-status"

/-- The answer to a question about a sensor. -/
def answerName : String := "sensor-value"

/-- What a word is read as when an inform does not have it. -/
def missingWord : String := "none"

/-- Reads an inform with one of the two names. -/
def ofInform? (m : Message) : Option SensorReport :=
  if m.name? = some updateName ∨ m.name? = some answerName then
    let words := [m.arg? 3, m.arg? 4, m.arg? 5]
    some ⟨(m.arg? 3).getD missingWord, (m.arg? 4).getD missingWord, (m.arg? 5).getD missingWord,
      (words.filter Option.isNone).length⟩
  else none

end SensorReport

end ArrayWatch
