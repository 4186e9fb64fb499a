import ArrayWatch.Link.Scripted
import ArrayWatch.Proofs.Gauges

/-!
# Published snapshots

A monitor publishes a snapshot only if something was done since the last one. Whatever it does
otherwise to its servers sets the flag that a snapshot is due, and what the remote sides do is not
seen before it is taken. So while no snapshot is due, the one that was published shows the servers
as they are, and the gauges are those of it.

* `MonitorMoment.step_cases`: a step leaves a snapshot due, or publishes one, or does nothing.
* `MonitorMoment.Current`: the snapshot and the gauges are up to date.
* `MonitorMoment.run_wakes`: rounds of the event loop are made up of steps.
* `MonitorMoment.published_is_current`: the law for every run.
-/

namespace ArrayWatch

/-- A monitor in its world. -/
structure MonitorMoment (ν : Type) where
  monitor : Monitor
  world : World ν

/-- What happens next. -/
inductive MonitorAct (ν : Type) where
  | process (now : Timestamp)
  | tick (now : Timestamp) (tick : Tick)
  | publish (now : Timestamp)
  | publishIfDirty (now : Timestamp)
  /-- The remote sides do something. -/
  | remote (move : ν → ν)

namespace MonitorMoment

variable {ν : Type}

/-- The monitor publishes a snapshot. -/
def publish (m : MonitorMoment ν) (now : Timestamp) : MonitorMoment ν :=
  let (monitor, world) := m.monitor.publish now m.world
  ⟨monitor, world⟩

/-- The snapshot that the dashboard serves. -/
def served (m : MonitorMoment ν) : Snapshot := (m.monitor.dashboard m.world.metrics).snapshot

/-- The snapshot shows the servers as they are, and the gauges are those of the snapshot. -/
structure Current (m : MonitorMoment ν) : Prop where
  snapshot : ∀ now, { m.served with generatedAt := now } = Snapshot.ofServers now m.monitor.servers
  gauges : m.world.metrics.Shows m.served

theorem current_publish (m : MonitorMoment ν) (now : Timestamp) : (m.publish now).Current :=
  ⟨fun _ => rfl, m.world.metrics.shows_setGauges _⟩

/-- The network is not shown. -/
theorem Current.of_eq {m m' : MonitorMoment ν} (h : m.Current) (hmonitor : m'.monitor = m.monitor)
    (hmetrics : m'.world.metrics = m.world.metrics) : m'.Current := by
  have hserved : m'.served = m.served := congrArg Monitor.published hmonitor
  refine ⟨fun now => ?_, ?_⟩
  · rw [hserved, hmonitor]
    exact h.snapshot now
  · rw [hserved, hmetrics]
    exact h.gauges

variable [Network ν]

/-- A monitor that starts to connect to its CMCs. -/
def start (config : MonitorConfig) (plan : Plan) (now : Timestamp) (net : ν) (metrics : Metrics) :
    MonitorMoment ν :=
  let (monitor, net) := Monitor.start config plan now net
  ⟨monitor, ⟨net, metrics⟩⟩

def step (m : MonitorMoment ν) : MonitorAct ν → MonitorMoment ν
  | .process now =>
    let (monitor, world) := m.monitor.process now m.world
    ⟨monitor, world⟩
  | .tick now tick =>
    let (monitor, world) := m.monitor.onTick now m.world tick
    ⟨monitor, world⟩
  | .publish now => m.publish now
  | .publishIfDirty now =>
    let (_, monitor, world) := m.monitor.publishIfDirty now m.world
    ⟨monitor, world⟩
  | .remote move => { m with world.net := move m.world.net }

def run (m : MonitorMoment ν) (acts : List (MonitorAct ν)) : MonitorMoment ν := acts.foldl step m

/-! ## Steps -/

theorem step_publishIfDirty (m : MonitorMoment ν) (now : Timestamp) :
    m.step (.publishIfDirty now) = if m.monitor.isDirty then m.publish now else m := by
  simp only [step, Monitor.publishIfDirty]
  split <;> rfl

/-- A step leaves a snapshot due, or it publishes one, or it does nothing that a snapshot shows. -/
theorem step_cases (m : MonitorMoment ν) (act : MonitorAct ν) :
    (m.step act).monitor.isDirty = true ∨ (∃ now, m.step act = m.publish now) ∨
      (m.step act).monitor = m.monitor ∧ (m.step act).world.metrics = m.world.metrics := by
  have hdue (now : Timestamp) : (∃ now', m.step (.publishIfDirty now) = m.publish now') ∨
      (m.step (.publishIfDirty now)).monitor = m.monitor ∧
        (m.step (.publishIfDirty now)).world.metrics = m.world.metrics := by
    rw [m.step_publishIfDirty now]
    split
    · exact .inl ⟨now, rfl⟩
    · exact .inr ⟨rfl, rfl⟩
  cases act with
  | process now => exact .inl rfl
  | tick now tick =>
    cases tick with
    | reconnect => exact .inl rfl
    | pollArrayList => exact .inl rfl
    | publish => exact .inr (hdue now)
  | publish now => exact .inr (.inl ⟨now, rfl⟩)
  | publishIfDirty now => exact .inr (hdue now)
  | remote move => exact .inr (.inr ⟨rfl, rfl⟩)

theorem current_step {m : MonitorMoment ν} (h : m.monitor.isDirty = false → m.Current)
    (act : MonitorAct ν) (hclean : (m.step act).monitor.isDirty = false) :
    (m.step act).Current := by
  rcases m.step_cases act with hdirty | ⟨now, hpublish⟩ | ⟨hmonitor, hmetrics⟩
  · exact absurd (hclean.symm.trans hdirty) Bool.false_ne_true
  · rw [hpublish]
    exact m.current_publish now
  · rw [hmonitor] at hclean
    exact (h hclean).of_eq hmonitor hmetrics

theorem current_run {m : MonitorMoment ν} (h : m.monitor.isDirty = false → m.Current)
    (acts : List (MonitorAct ν)) (hclean : (m.run acts).monitor.isDirty = false) :
    (m.run acts).Current := by
  induction acts generalizing m with
  | nil => exact h hclean
  | cons act rest ih => exact ih (current_step h act) hclean

/-! ## The event loop -/

/-- The steps of one round. -/
def round (now : Timestamp) : Option Tick → List (MonitorAct ν)
  | none => [.process now]
  | some .publish => [.tick now .publish]
  | some tick => [.process now, .tick now tick]

theorem run_round (m : MonitorMoment ν) (now : Timestamp) (tick : Option Tick) :
    m.run (round now tick) =
      ⟨(m.monitor.wake now m.world tick).1, (m.monitor.wake now m.world tick).2⟩ := by
  cases tick with
  | none => rfl
  | some tick => cases tick <;> rfl

/-- Rounds of the event loop are made up of steps. -/
theorem run_wakes (m : MonitorMoment ν) (now : Timestamp) (ticks : List (Option Tick)) :
    m.run (ticks.flatMap (round now)) =
      ⟨(m.monitor.wakes now m.world ticks).1, (m.monitor.wakes now m.world ticks).2⟩ := by
  induction ticks generalizing m with
  | nil => rfl
  | cons tick rest ih =>
    rw [List.flatMap_cons, run, List.foldl_append]
    show (m.run (round now tick)).run _ = _
    rw [run_round, ih]
    rfl

/-! ## The law -/

/-- Whatever a monitor does and whatever comes in between, as long as no snapshot is due the
dashboard serves what a snapshot of the servers would be at this moment, apart from its time, and
the gauges are those of it. The event loop is such a run, see `run_wakes`. -/
theorem published_is_current (config : MonitorConfig) (plan : Plan) (now : Timestamp) (net : ν)
    (metrics : Metrics) (acts : List (MonitorAct ν)) :
    let m := (start config plan now net metrics).run acts
    m.monitor.isDirty = false →
      (∀ later, { m.served with generatedAt := later } =
          Snapshot.ofServers later m.monitor.servers) ∧
        m.world.metrics.arrays = m.served.arrayCount ∧
        (∀ role state, m.world.metrics.channelState.value [role.word, state.word] =
          m.served.channelStates.count (role, state)) ∧
        ∀ role, m.world.metrics.channelsConnected.value [role.word] =
          m.served.channelStates.countP fun c => c.1 = role ∧ c.2 ≠ .disconnected := by
  intro m hclean
  have hstart : (start config plan now net metrics).monitor.isDirty = true := rfl
  obtain ⟨hsnapshot, hgauges⟩ := current_run
    (fun h => absurd (h.symm.trans hstart) Bool.false_ne_true) acts hclean
  exact ⟨hsnapshot, hgauges.arrays, fun role state => hgauges.states (role, state),
    hgauges.connected⟩

/-! ## A snapshot that does not show what was not taken -/

/-- The CMC connects and is asked, a snapshot is published, and then the reply comes. -/
def replyAfterwards : List (MonitorAct ScriptedNetwork) :=
  let happens (event : LinkEvent) : MonitorAct ScriptedNetwork :=
    .remote fun net => net.modify 0 fun link => link.happen event
  [happens .connected, .process ⟨1⟩, .tick ⟨2⟩ .publish,
    happens (.line ⟨.reply, ["log-local", "ok"]⟩), .publishIfDirty ⟨3⟩]

/-- One CMC is watched. -/
def oneCmc : MonitorConfig :=
  ⟨[⟨"cmc", CmcServer.defaultPort⟩], none, [], 10, 30, 1000, defaultEnginesPerHost, 0, .default,
    "info"⟩

/-- The snapshot still shows the request that waits, and so do the servers and the gauges. -/
theorem published_is_current_replyAfterwards :
    let m := (start oneCmc ⟨[], defaultEnginesPerHost⟩ ⟨0⟩ ScriptedNetwork.empty .zero).run
      replyAfterwards
    m.monitor.isDirty = false ∧ m.served.generatedAt = ⟨2⟩ ∧
      (Snapshot.ofServers ⟨2⟩ m.monitor.servers).channelStates = [(.cmc, .waitResponse)] ∧
      { m.served with generatedAt := ⟨4⟩ } = Snapshot.ofServers ⟨4⟩ m.monitor.servers ∧
      m.world.metrics.channelState.value ["cmc", "wait_response"] = 1 := by
  intro m
  have hclean : m.monitor.isDirty = false := by decide +kernel
  obtain ⟨hserved, -, hstates, -⟩ := published_is_current oneCmc ⟨[], defaultEnginesPerHost⟩ ⟨0⟩
    ScriptedNetwork.empty .zero replyAfterwards hclean
  have hcount : m.served.channelStates.count (.cmc, .waitResponse) = 1 := by decide +kernel
  refine ⟨hclean, by decide +kernel, by decide +kernel, hserved ⟨4⟩, ?_⟩
  exact (hstates .cmc .waitResponse).trans (congrArg Nat.cast hcount)

end MonitorMoment

end ArrayWatch
