import ArrayWatch.Channel.Basic
import ArrayWatch.Inform.Announcement
import ArrayWatch.Subscription.Plan
import ArrayWatch.SensorTree.Basic

/-!
# Correlator arrays

An array has a control channel, a monitor channel and the tree of its sensors. When its instrument
comes up, it is activated: every sensor of the subscription plan is added to the tree and asked for
on the monitor channel.
-/

namespace ArrayWatch

/-- Whether an array has been listed since the array list was last asked for. -/
inductive Liveness where
  | fine | suspect
  deriving DecidableEq, Repr, Inhabited

namespace Liveness

def word : Liveness → String
  | fine => "fine"
  | suspect => "suspect"

def describe : Liveness → String
  | fine => "Fine"
  | suspect => "Suspect"

end Liveness

/-- An array of a CMC. -/
structure CorrelatorArray where
  /-- The announcement that the array was made from. -/
  spec : Announcement
  cmcAddress : String
  liveness : Liveness
  control : Channel
  monitor : Channel
  instrumentState : String
  configFile : String
  /-- How often the plan has been subscribed to. A counter of 32 bits would overflow after 4294967295
  activations, which is left out here. -/
  activations : Nat
  tree : SensorTree
  updatedAt : Option Timestamp
  plan : Plan
  deriving DecidableEq, Repr, Inhabited

/-- Why a sensor cannot be added to an array. -/
inductive ArrayError where
  | tree (reason : TreeError)
  deriving DecidableEq, Repr

def ArrayError.message : ArrayError → String
  | tree reason => "Model error: " ++ reason.message

namespace CorrelatorArray

/-! ## Names on the wire -/

/-- The sensor that tells whether the instrument is up. -/
def instrumentStateSensor : String := "instrument-state"

/-- The sensor that tells which antenna feeds which input. -/
def inputLabellingSensor : String := "input-labelling"

/-- The sensor that tells which board works as which host. -/
def hostMappingSensor : String := "hostname-functional-mapping"

/-- The state of an instrument that is up. -/
def nominalState : String := "nominal"

/-- Asks the peer not to send its log. -/
def logOff : Message := .request "log-local" ["off"]

/-- The first requests on a control channel. -/
def controlSeed : List Message := [logOff, .sensorSampling instrumentStateSensor]

/-- The first requests on a monitor channel. -/
def monitorSeed : List Message := [logOff]

/-! ## State -/

/-- An array that was just announced, with its two links. -/
def ofLinks (spec : Announcement) (cmcAddress : String) (plan : Plan) (maxRetries : UInt32)
    (control monitor : Link) : CorrelatorArray :=
  ⟨spec, cmcAddress, .fine, .connected .control control controlSeed maxRetries,
    .connected .monitor monitor monitorSeed maxRetries, "", "", 0,
    .empty spec.name spec.antennas, none, plan⟩

def name (a : CorrelatorArray) : String := a.spec.name

def antennas (a : CorrelatorArray) : Nat := a.spec.antennas

def isSuspect (a : CorrelatorArray) : Bool := a.liveness == .suspect

def markSuspect (a : CorrelatorArray) : CorrelatorArray := { a with liveness := .suspect }

def markFine (a : CorrelatorArray) : CorrelatorArray := { a with liveness := .fine }

/-- Whether both channels are up. -/
def isFunctional (a : CorrelatorArray) : Bool :=
  !a.control.isDisconnected && !a.monitor.isDisconnected

/-- Whether a channel was lost before it ever connected. Such an array never came up. -/
def failedToOpen (a : CorrelatorArray) : Bool :=
  [a.control, a.monitor].any fun channel => channel.isDisconnected && !channel.hasConnected

/-! ## Sensors -/

/-- Makes sure that the array has a sensor. -/
def ensureSensor (a : CorrelatorArray) (path : SensorPath) :
    CorrelatorArray × Except ArrayError Unit :=
  let (tree, result) := a.tree.ensure path
  ({ a with tree }, result.mapError .tree)

/-! ## Activation -/

/-- Asks for a sensor on the monitor channel. -/
def sampleOnMonitor (a : CorrelatorArray) (sensor : String) : CorrelatorArray :=
  { a with monitor := a.monitor.push (.sensorSampling sensor) }

/-- Asks for a sensor on the control channel. -/
def sampleOnControl (a : CorrelatorArray) (sensor : String) : CorrelatorArray :=
  { a with control := a.control.push (.sensorSampling sensor) }

/-- Adds sensors and asks for them, up to the first that cannot be added. -/
def subscribe (a : CorrelatorArray) : List SensorPath → CorrelatorArray
  | [] => a
  | path :: rest =>
    match a.ensureSensor path with
    | (a, .ok ()) => (a.sampleOnMonitor path.text).subscribe rest
    | (a, .error _) => a

/-- Subscribes to the sensors of every pattern. -/
def subscribeAll (a : CorrelatorArray) (patterns : List Pattern) : CorrelatorArray :=
  patterns.foldl (fun a p => a.subscribe (p.targets a.antennas a.plan.enginesPerHost)) a

/-- Subscribes to everything: the plan, the status of the array, the mapping of the hosts, and the
labels of the inputs. -/
def activate (a : CorrelatorArray) : CorrelatorArray :=
  let a := { a with activations := a.activations + 1 }
  let a := (a.subscribeAll a.plan.patterns).ensureSensor (.array deviceStatus) |>.1
  ((a.sampleOnMonitor deviceStatus).sampleOnMonitor hostMappingSensor).sampleOnControl
    inputLabellingSensor

theorem spec_subscribe (a : CorrelatorArray) (paths : List SensorPath) :
    (a.subscribe paths).spec = a.spec := by
  induction paths generalizing a with
  | nil => rfl
  | cons path rest ih =>
    unfold subscribe
    split
    · rename_i a' h
      have h' : (a.ensureSensor path).1 = a' := by rw [h]
      rw [ih, ← h']
      rfl
    · rename_i a' _ h
      have h' : (a.ensureSensor path).1 = a' := by rw [h]
      rw [← h']
      rfl

theorem spec_subscribeAll (a : CorrelatorArray) (patterns : List Pattern) :
    (a.subscribeAll patterns).spec = a.spec := by
  induction patterns generalizing a with
  | nil => rfl
  | cons p rest ih =>
    have h := ih (a.subscribe (p.targets a.antennas a.plan.enginesPerHost))
    rw [spec_subscribe] at h
    exact h

/-! ## Descriptions -/

def describe (a : CorrelatorArray) : String :=
  Text.describeRecord "Array"
    [("name", Text.quoted a.name), ("antenna_count", toString a.antennas),
      ("liveness", a.liveness.describe), ("control", a.control.state.describe),
      ("monitor", a.monitor.state.describe)]

end CorrelatorArray

end ArrayWatch
