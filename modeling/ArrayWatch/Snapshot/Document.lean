import ArrayWatch.Snapshot.Basic

/-!
# Snapshots as documents

The documents that the dashboard answers with: the snapshot as a whole, an array, the ranking, and
the CMCs with summaries of their arrays.
-/

namespace ArrayWatch

def ChannelView.toValue (c : ChannelView) : Value :=
  .table [("role", .text c.role.word), ("state", .text c.state.word), ("peer", .text c.peer),
    ("in_flight", .option .text c.inFlight), ("queued", .nat c.queued),
    ("stats", c.stats.toValue)]

/-- A virtual device with its status. -/
def VirtualDevice.summary (v : VirtualDevice) (h : Host) : Value :=
  .table [("name", .text v.name), ("status", (v.status h).toValue)]

/-- A host by its text, with the statuses of its virtual devices. -/
def Host.summary (h : Host) : Value :=
  .table [("name", .text h.id.text), ("serial", .text h.serial),
    ("input_stream", .text h.inputStream), ("devices", .list (h.devices.map Device.toValue)),
    ("engines", .list (h.engines.map Engine.toValue)),
    ("vdevices", .list (h.virtualDevices.map (·.summary h)))]

def Team.summary (t : Team) : Value :=
  .table [("kind", .char t.kind), ("hosts", .list (t.hosts.map Host.summary))]

namespace ArrayView

/-- Everything that is shown of an array. -/
def toValue (a : ArrayView) : Value :=
  .table [("name", .text a.name), ("cmc_address", .text a.cmcAddress),
    ("control_port", .nat a.spec.controlPort.toNat),
    ("monitor_port", .nat a.spec.monitorPort.toNat), ("antenna_count", .nat a.spec.antennas),
    ("liveness", .text a.liveness.word), ("functional", .bool a.isFunctional),
    ("control", a.control.toValue), ("monitor", a.monitor.toValue),
    ("instrument_state", .text a.instrumentState), ("config_file", .text a.configFile),
    ("activations", .nat a.activations), ("updated_at", .option .time a.updatedAt),
    ("sensors", .list (a.sensors.map Sensor.toValue)),
    ("teams", .list (a.teams.map Team.summary))]

/-- An array in the list of its CMC. -/
def summary (a : ArrayView) : Value :=
  .table [("name", .text a.name), ("antenna_count", .nat a.spec.antennas),
    ("liveness", .text a.liveness.word), ("functional", .bool a.isFunctional),
    ("control_state", .text a.control.state.word), ("monitor_state", .text a.monitor.state.word),
    ("instrument_state", .text a.instrumentState), ("updated_at", .option .time a.updatedAt)]

end ArrayView

namespace CmcView

/-- A CMC, with its arrays written by `arrays`. -/
def toValueWith (arrays : ArrayView → Value) (c : CmcView) : Value :=
  .table [("position", .nat c.position), ("address", .text c.address),
    ("port", .nat c.port.toNat), ("connected", .bool c.isConnected),
    ("reconnects", .nat c.reconnects), ("channel", c.channel.toValue),
    ("arrays", .list (c.arrays.map arrays))]

/-- Everything that is shown of a CMC. -/
def toValue (c : CmcView) : Value := c.toValueWith ArrayView.toValue

/-- A CMC with summaries of its arrays. -/
def summary (c : CmcView) : Value := c.toValueWith ArrayView.summary

end CmcView

def RankEntry.toValue (r : RankEntry) : Value :=
  .table [("rank", .nat r.rank), ("cmc", .nat r.cmc), ("name", .text r.name),
    ("antenna_count", .nat r.antennas)]

namespace Snapshot

def toValue (s : Snapshot) : Value :=
  .table [("generated_at", .time s.generatedAt), ("cmcs", .list (s.cmcs.map CmcView.toValue)),
    ("ranked", .list (s.ranked.map RankEntry.toValue))]

end Snapshot

end ArrayWatch
