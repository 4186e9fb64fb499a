import ArrayWatch.Keyed
import ArrayWatch.Sensor
import ArrayWatch.SensorTree.Error

/-!
# Devices and engines

A device is a named group of sensors, an engine a named group of devices. Sensors and devices are
made where they are first asked for, and are changed only where they are.
-/

namespace ArrayWatch

/-- The sensor that carries the status of a whole device. -/
def deviceStatus : String := "device-status"

/-! ## Devices -/

/-- A named group of sensors. -/
structure Device where
  name : String
  sensors : List Sensor
  deriving DecidableEq, Repr, Inhabited

namespace Device

def empty (name : String) : Device := ⟨name, []⟩

def sensor? (d : Device) (name : String) : Option Sensor :=
  Keyed.get? Sensor.name name d.sensors

/-- Adds a sensor, unless there is one of that name. -/
def ensure (d : Device) (sensor : String) : Device :=
  { d with sensors := Keyed.upsert Sensor.name sensor (.fresh sensor) id d.sensors }

/-- Gives a reading to a sensor of the device. -/
def update (d : Device) (sensor value status : String) (now : Timestamp) :
    Except TreeError Device := do
  let sensors ← Keyed.update Sensor.name sensor (.noSensor sensor d.name)
    (fun s => .ok (s.update value status now)) d.sensors
  return { d with sensors }

/-- The sensor for the status of the whole device. -/
def status? (d : Device) : Option Sensor :=
  d.sensor? deviceStatus

def toValue (d : Device) : Value :=
  .table [("name", .text d.name), ("sensors", .list (d.sensors.map Sensor.toValue))]

end Device

/-! ## Groups of devices -/

namespace Devices

/-- The first device of a name. -/
def device? (devices : List Device) (name : String) : Option Device :=
  Keyed.get? Device.name name devices

/-- Makes sure that a device carries a sensor. -/
def ensure (devices : List Device) (device sensor : String) : List Device :=
  Keyed.upsert Device.name device (.empty device) (·.ensure sensor) devices

/-- Gives a reading to a sensor of a device. -/
def update (devices : List Device) (device sensor value status : String) (now : Timestamp) :
    Except TreeError (List Device) :=
  Keyed.update Device.name device (.noDevice device) (·.update sensor value status now) devices

end Devices

/-! ## Engines -/

/-- A named group of devices on a host. -/
structure Engine where
  name : String
  devices : List Device
  deriving DecidableEq, Repr, Inhabited

namespace Engine

def empty (name : String) : Engine := ⟨name, []⟩

def device? (e : Engine) (name : String) : Option Device :=
  Devices.device? e.devices name

/-- Makes sure that a device of the engine carries a sensor. -/
def ensure (e : Engine) (device sensor : String) : Engine :=
  { e with devices := Devices.ensure e.devices device sensor }

/-- Gives a reading to a sensor of a device of the engine. -/
def update (e : Engine) (device sensor value status : String) (now : Timestamp) :
    Except TreeError Engine := do
  return { e with devices := ← Devices.update e.devices device sensor value status now }

def toValue (e : Engine) : Value :=
  .table [("name", .text e.name), ("devices", .list (e.devices.map Device.toValue))]

end Engine

end ArrayWatch
