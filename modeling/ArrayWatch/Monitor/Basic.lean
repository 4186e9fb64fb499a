import ArrayWatch.CmcServer.Run
import ArrayWatch.Dashboard.Basic
import ArrayWatch.Monitor.Config

/-!
# Monitor

The CMCs that are watched, and the snapshot of them that the dashboard shows. A snapshot is taken
only after something was processed since the last one.
-/

namespace ArrayWatch

/-! ## Gauges -/

/-- How many channels of a role are in each state. -/
def Snapshot.stateCounts (s : Snapshot) (role : ChannelRole) : List (String × Int) :=
  ChannelState.all.map fun state =>
    (state.word, (s.channelStates.filter (· == (role, state))).length)

/-- Sets the gauges to what a snapshot shows. -/
def Metrics.setGauges (m : Metrics) (s : Snapshot) : Metrics :=
  ChannelRole.all.foldl (fun m role => m.setChannelStates role.word (s.stateCounts role))
    (m.setArrays s.arrayCount)

/-! ## Monitor -/

/-- What the timers of a monitor ask for. -/
inductive Tick where
  | reconnect | pollArrayList | publish
  deriving DecidableEq, Repr, Inhabited

/-- The CMCs, and the snapshot that was published last. -/
structure Monitor where
  config : MonitorConfig
  servers : List CmcServer
  published : Snapshot
  /-- Whether anything was processed since the last snapshot. -/
  isDirty : Bool
  deriving Repr, Inhabited

namespace Monitor

variable {ν : Type} [Network ν]

/-- Starts to connect to every CMC in turn. -/
def startServers (plan : Plan) (maxRetries : UInt32) (net : ν) :
    List CmcEndpoint → List CmcServer × ν
  | [] => ([], net)
  | cmc :: rest =>
    let (server, net) := CmcServer.start cmc.address cmc.port plan maxRetries net
    let (servers, net) := startServers plan maxRetries net rest
    (server :: servers, net)

/-- A monitor that starts to connect to its CMCs, with nothing published. -/
def start (config : MonitorConfig) (plan : Plan) (now : Timestamp) (net : ν) : Monitor × ν :=
  let (servers, net) := startServers plan config.maxRetries net config.cmcs
  (⟨config, servers, .empty now, true⟩, net)

/-- Hands requests over, and remembers that something was done. -/
def flush (m : Monitor) (w : World ν) : Monitor × World ν :=
  let (servers, w) := World.each (·.flush ·) m.servers w
  ({ m with servers, isDirty := true }, w)

/-- Takes everything that came, then hands requests over. -/
def process (m : Monitor) (now : Timestamp) (w : World ν) : Monitor × World ν :=
  let (servers, w) := World.each (·.receive now ·) m.servers w
  { m with servers }.flush w

/-- Takes a snapshot and publishes it. -/
def publish (m : Monitor) (now : Timestamp) (w : World ν) : Monitor × World ν :=
  let snapshot := Snapshot.ofServers now m.servers
  ({ m with published := snapshot, isDirty := false }, w.count (·.setGauges snapshot))

/-- Publishes a snapshot if there may be anything new, and says whether it did. -/
def publishIfDirty (m : Monitor) (now : Timestamp) (w : World ν) : Bool × Monitor × World ν :=
  if m.isDirty then (true, m.publish now w) else (false, m, w)

/-- What a timer asks for. -/
def onTick (m : Monitor) (now : Timestamp) (w : World ν) : Tick → Monitor × World ν
  | .reconnect =>
    let (servers, w) := World.each (fun s w => (s.reconnect w).2) m.servers w
    { m with servers }.flush w
  | .pollArrayList => { m with servers := m.servers.map .pollArrayList }.flush w
  | .publish => (m.publishIfDirty now w).2

/-- One round of the event loop: something came, or a timer ran out. -/
def wake (m : Monitor) (now : Timestamp) (w : World ν) : Option Tick → Monitor × World ν
  | none => m.process now w
  | some .publish => m.onTick now w .publish
  | some tick =>
    let (m, w) := m.process now w
    m.onTick now w tick

/-- Rounds of the event loop. -/
def wakes (m : Monitor) (now : Timestamp) (w : World ν) : List (Option Tick) → Monitor × World ν
  | [] => (m, w)
  | first :: rest =>
    let (m, w) := m.wake now w first
    m.wakes now w rest

/-- The dashboard over what was published. -/
def dashboard (m : Monitor) (metrics : Metrics) : Dashboard :=
  ⟨m.config.dashboard, m.published, metrics⟩

end Monitor

end ArrayWatch
