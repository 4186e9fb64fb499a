import ArrayWatch.Channel.Run
import ArrayWatch.CorrelatorArray.Basic
import ArrayWatch.Inform.SensorReport
import ArrayWatch.SensorTree.Informed

/-!
# Arrays at work

What the informs on the two channels of an array do. The control channel tells about the instrument
and its inputs, the monitor channel about the hosts and about every sensor of the tree.
-/

namespace ArrayWatch.CorrelatorArray

/-! ## Control informs -/

/-- Takes the state of the instrument and its configuration. A change to the nominal state, and a
change of the configuration in it, activates the array. -/
def setInstrumentState (a : CorrelatorArray) (state configFile : String) : CorrelatorArray :=
  if state = a.instrumentState ∧ configFile = a.configFile then a
  else
    let a := { a with instrumentState := state, configFile := configFile }
    if state = nominalState then a.activate else a

/-- Takes the labels of the inputs, and counts those that could not be used. -/
def setInputLabels (a : CorrelatorArray) (text : String) : CorrelatorArray × Nat :=
  let (tree, faults) := a.tree.applyLabels (InputLabel.ofText text)
  ({ a with tree }, faults)

/-- What a report on the control channel does. -/
def controlReport (a : CorrelatorArray) (r : SensorReport) (metrics : Metrics) :
    CorrelatorArray × Metrics :=
  if r.sensor = instrumentStateSensor then (a.setInstrumentState r.status r.value, metrics)
  else if r.sensor = inputLabellingSensor then
    let (a, faults) := a.setInputLabels r.value
    (a, metrics.malformed "input_labelling" faults)
  else (a, metrics)

/-! ## Monitor informs -/

/-- Takes the mapping of the hosts: two records for each antenna. Counts those that could not be
used. -/
def setHostMapping (a : CorrelatorArray) (payload : String) : CorrelatorArray × Nat :=
  let (tree, faults) := a.tree.applyMappings (HostMapping.ofPayload payload (2 * a.antennas))
  ({ a with tree }, faults)

/-- Takes a reading. A sensor that is not subscribed to is passed over; a name that leads nowhere
is counted. -/
def setReading (a : CorrelatorArray) (r : SensorReport) (now : Timestamp) : CorrelatorArray × Nat :=
  match a.tree.updateByName r.sensor r.value r.status now with
  | .ok tree => ({ a with tree, updatedAt := some now }, 0)
  | .error e => (a, if e.isNotFound then 0 else 1)

/-- What a report on the monitor channel does. -/
def monitorReport (a : CorrelatorArray) (name : String) (r : SensorReport) (now : Timestamp)
    (metrics : Metrics) : CorrelatorArray × Metrics :=
  if r.sensor = hostMappingSensor then
    let (a, faults) := a.setHostMapping r.value
    (a, metrics.malformed "hostname_mapping" faults)
  else if name = SensorReport.updateName then
    let (a, faults) := a.setReading r now
    (a, metrics.malformed "sensor_name" faults)
  else (a, metrics)

/-! ## Events -/

/-- What an event on the control channel does. -/
def controlEvent (a : CorrelatorArray) (metrics : Metrics) :
    ChannelEvent → CorrelatorArray × Metrics
  | .reply request reply => (a, metrics.recordReply request reply)
  | .inform m =>
    match m.name? with
    | none => (a, metrics)
    | some name =>
      let metrics := metrics.informReceived name
      match SensorReport.ofInform? m with
      | none => (a, metrics)
      | some r => a.controlReport r (metrics.malformed "null_field" r.missing)

/-- What an event on the monitor channel does. -/
def monitorEvent (a : CorrelatorArray) (now : Timestamp) (metrics : Metrics) :
    ChannelEvent → CorrelatorArray × Metrics
  | .reply request reply => (a, metrics.recordReply request reply)
  | .inform m =>
    match m.name? with
    | none => (a, metrics)
    | some name =>
      let metrics := metrics.informReceived name
      match SensorReport.ofInform? m with
      | none => (a, metrics)
      | some r => a.monitorReport name r now (metrics.malformed "null_field" r.missing)

def controlEvents (a : CorrelatorArray) (metrics : Metrics) :
    List ChannelEvent → CorrelatorArray × Metrics
  | [] => (a, metrics)
  | event :: rest =>
    let (a, metrics) := a.controlEvent metrics event
    a.controlEvents metrics rest

def monitorEvents (a : CorrelatorArray) (now : Timestamp) (metrics : Metrics) :
    List ChannelEvent → CorrelatorArray × Metrics
  | [] => (a, metrics)
  | event :: rest =>
    let (a, metrics) := a.monitorEvent now metrics event
    a.monitorEvents now metrics rest

/-! ## Steps -/

variable {ν : Type} [Network ν]

/-- Opens both links of an array that was announced. -/
def openLinks (spec : Announcement) (cmcAddress : String) (plan : Plan) (maxRetries : UInt32)
    (net : ν) : CorrelatorArray × ν :=
  let (control, net) := Network.openLink cmcAddress spec.controlPort net
  let (monitor, net) := Network.openLink cmcAddress spec.monitorPort net
  (.ofLinks spec cmcAddress plan maxRetries control monitor, net)

/-- Takes everything that came on the control channel. -/
def receiveControl (a : CorrelatorArray) (w : World ν) : CorrelatorArray × World ν :=
  let (control, events, net) := a.control.read w.net
  let (a, metrics) := { a with control }.controlEvents w.metrics events
  (a, ⟨net, metrics⟩)

/-- Takes everything that came on the monitor channel. -/
def receiveMonitor (a : CorrelatorArray) (now : Timestamp) (w : World ν) :
    CorrelatorArray × World ν :=
  let (monitor, events, net) := a.monitor.read w.net
  let (a, metrics) := { a with monitor }.monitorEvents now w.metrics events
  (a, ⟨net, metrics⟩)

/-- Takes everything that came since the last time. -/
def receive (a : CorrelatorArray) (now : Timestamp) (w : World ν) : CorrelatorArray × World ν :=
  let (a, w) := a.receiveControl w
  a.receiveMonitor now w

/-- Hands requests on both channels over. -/
def flush (a : CorrelatorArray) (w : World ν) : CorrelatorArray × World ν :=
  let (control, w) := a.control.flush w
  let (monitor, w) := a.monitor.flush w
  ({ a with control, monitor }, w)

end ArrayWatch.CorrelatorArray
