import ArrayWatch.SensorTree.Device

/-!
# Hosts

A host owns devices, engines with devices of their own, and for every device name of its engines
one virtual device: the view of that device across all of the engines.
-/

namespace ArrayWatch

/-- A device name as seen across the engines of one host. -/
structure VirtualDevice where
  name : String
  host : HostId
  deriving DecidableEq, Repr, Inhabited

/-- A processing node. -/
structure Host where
  id : HostId
  serial : String
  inputStream : String
  devices : List Device
  engines : List Engine
  virtualDevices : List VirtualDevice
  deriving DecidableEq, Repr, Inhabited

/-- The serial of a host that no mapping has named yet. -/
def unknownSerial : String := "unknwn"

namespace Host

def empty (id : HostId) : Host := ⟨id, unknownSerial, "", [], [], []⟩

def setSerial (h : Host) (serial : String) : Host := { h with serial }

/-- Takes the label of an input. Its last character names the polarisation and is dropped. -/
def setInputLabel (h : Host) (label : String) : Host :=
  { h with inputStream := String.ofList label.toList.dropLast }

def device? (h : Host) (name : String) : Option Device :=
  Devices.device? h.devices name

def engine? (h : Host) (name : String) : Option Engine :=
  Keyed.get? Engine.name name h.engines

def virtualDevice? (h : Host) (name : String) : Option VirtualDevice :=
  Keyed.get? VirtualDevice.name name h.virtualDevices

/-- Makes sure that a device of the host carries a sensor. -/
def ensureDevice (h : Host) (device sensor : String) : Host :=
  { h with devices := Devices.ensure h.devices device sensor }

/-- Makes sure that a device of an engine carries a sensor, and that the host has the virtual device
for it. -/
def ensureEngine (h : Host) (engine device sensor : String) : Host :=
  { h with
    engines := Keyed.upsert Engine.name engine (.empty engine) (·.ensure device sensor) h.engines
    virtualDevices :=
      Keyed.upsert VirtualDevice.name device ⟨device, h.id⟩ (fun v => v) h.virtualDevices }

/-- Gives a reading to a sensor of a device. -/
def updateDevice (h : Host) (device sensor value status : String) (now : Timestamp) :
    Except TreeError Host := do
  return { h with devices := ← Devices.update h.devices device sensor value status now }

/-- Gives a reading to a sensor of a device of an engine. -/
def updateEngine (h : Host) (engine device sensor value status : String) (now : Timestamp) :
    Except TreeError Host := do
  let engines ← Keyed.update Engine.name engine (.noEngine engine h.id)
    (·.update device sensor value status now) h.engines
  return { h with engines }

end Host

namespace VirtualDevice

/-- The worst status of the device across the engines. A virtual device of another host knows
nothing of this one. -/
def status (v : VirtualDevice) (h : Host) : SensorStatus :=
  if h.id = v.host then
    SensorStatus.worst (h.engines.map fun engine =>
      (engine.device? v.name).bind fun device => device.status?.bind Sensor.status?)
  else .unknown

def toValue (v : VirtualDevice) : Value :=
  .table [("name", .text v.name), ("host", v.host.toValue)]

end VirtualDevice

namespace Host

/-- The status of a virtual device, where the host has one of that name. -/
def virtualStatus? (h : Host) (name : String) : Option SensorStatus :=
  (h.virtualDevice? name).map (·.status h)

def toValue (h : Host) : Value :=
  .table [("id", h.id.toValue), ("serial", .text h.serial), ("input_stream", .text h.inputStream),
    ("devices", .list (h.devices.map Device.toValue)),
    ("engines", .list (h.engines.map Engine.toValue)),
    ("vdevices", .list (h.virtualDevices.map VirtualDevice.toValue))]

end Host

end ArrayWatch
