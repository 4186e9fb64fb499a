import ArrayWatch.Proofs.ArrayRun

/-!
# The channels of an array at work

What an array does of itself to its channels is to ask for more. So whatever of a channel does not
change when it is given a request, does not change when the array acts on events.

* `CorrelatorArray.ofChannels`: something that is read off both channels.
* `CorrelatorArray.ofChannels_controlEvents`, `CorrelatorArray.ofChannels_monitorEvents`.
* `CorrelatorArray.OnChannels`: a property of each of the channels. `ArrayMoment.onChannels_step`:
  it stays where asking for sensors, reading and handing over leave it.
-/

namespace ArrayWatch

namespace CorrelatorArray

variable {β : Type} {f : Channel → β}

/-- What is read off the two channels of an array. -/
def ofChannels (f : Channel → β) (a : CorrelatorArray) : β × β := (f a.control, f a.monitor)

theorem ofChannels_sampleOnMonitor (hpush : ∀ c m, f (c.push m) = f c) (a : CorrelatorArray)
    (sensor : String) : (a.sampleOnMonitor sensor).ofChannels f = a.ofChannels f :=
  congrArg (f a.control, ·) (hpush a.monitor _)

theorem ofChannels_sampleOnControl (hpush : ∀ c m, f (c.push m) = f c) (a : CorrelatorArray)
    (sensor : String) : (a.sampleOnControl sensor).ofChannels f = a.ofChannels f :=
  congrArg (·, f a.monitor) (hpush a.control _)

theorem ofChannels_subscribe (hpush : ∀ c m, f (c.push m) = f c) (a : CorrelatorArray)
    (paths : List SensorPath) : (a.subscribe paths).ofChannels f = a.ofChannels f := by
  induction paths generalizing a with
  | nil => rfl
  | cons path rest ih =>
    have hensure : (a.ensureSensor path).1.ofChannels f = a.ofChannels f := rfl
    unfold subscribe
    split
    · rename_i a' h
      rw [ih, ofChannels_sampleOnMonitor hpush, ← hensure, h]
    · rename_i a' reason h
      rw [← hensure, h]

theorem ofChannels_subscribeAll (hpush : ∀ c m, f (c.push m) = f c) (a : CorrelatorArray)
    (patterns : List Pattern) : (a.subscribeAll patterns).ofChannels f = a.ofChannels f := by
  induction patterns generalizing a with
  | nil => rfl
  | cons p rest ih => exact (ih _).trans (ofChannels_subscribe hpush a _)

theorem ofChannels_activate (hpush : ∀ c m, f (c.push m) = f c) (a : CorrelatorArray) :
    a.activate.ofChannels f = a.ofChannels f := by
  unfold activate
  dsimp only
  rw [ofChannels_sampleOnControl hpush, ofChannels_sampleOnMonitor hpush,
    ofChannels_sampleOnMonitor hpush]
  exact ofChannels_subscribeAll hpush _ _

theorem ofChannels_setInstrumentState (hpush : ∀ c m, f (c.push m) = f c) (a : CorrelatorArray)
    (state configFile : String) :
    (a.setInstrumentState state configFile).ofChannels f = a.ofChannels f := by
  rcases a.setInstrumentState_cases state configFile with ⟨-, h⟩ | ⟨-, ⟨-, h⟩ | ⟨-, h⟩⟩
  · rw [h]
  · rw [h]
    exact ofChannels_activate hpush _
  · rw [h]
    rfl

theorem ofChannels_controlEvents (hpush : ∀ c m, f (c.push m) = f c) (a : CorrelatorArray)
    (metrics : Metrics) (events : List ChannelEvent) :
    (a.controlEvents metrics events).1.ofChannels f = a.ofChannels f := by
  induction events generalizing a metrics with
  | nil => rfl
  | cons event rest ih =>
    have hfirst : (a.controlEvent metrics event).1.ofChannels f = a.ofChannels f := by
      rcases a.controlEvent_cases metrics event with ⟨state, configFile, -, h⟩ | ⟨-, tree, -, h⟩
      · rw [h]
        exact ofChannels_setInstrumentState hpush a state configFile
      · rw [h]
        rfl
    exact (ih _ _).trans hfirst

/-- A reading or a mapping is no request, so nothing is assumed of what is read off. -/
theorem ofChannels_monitorEvents (f : Channel → β) (a : CorrelatorArray) (now : Timestamp)
    (metrics : Metrics) (events : List ChannelEvent) :
    (a.monitorEvents now metrics events).1.ofChannels f = a.ofChannels f := by
  induction events generalizing a metrics with
  | nil => rfl
  | cons event rest ih =>
    have hfirst : (a.monitorEvent now metrics event).1.ofChannels f = a.ofChannels f := by
      rcases a.monitorEvent_cases now metrics event with ⟨r, tree, -, -, h⟩ | ⟨-, tree, -, -, h⟩
      · rw [h]
        rfl
      · rw [h]
        rfl
    exact (ih _ _).trans hfirst

end CorrelatorArray

/-! ## Properties of the channels -/

section Stays

variable {ν : Type} [Network ν] {P Q : Channel → Prop}

variable (ν) in
/-- The property stays when a sensor is asked for, and when the channel reads or hands over. -/
structure Channel.Stays (P : Channel → Prop) : Prop where
  ask : ∀ c sensor, P c → P (c.push (.sensorSampling sensor))
  read : ∀ (c : Channel) (net : ν), P c → P (c.read net).1
  flush : ∀ (c : Channel) (w : World ν), P c → P (c.flush w).1

theorem Channel.stays_role (role : ChannelRole) : Stays ν fun c => c.role = role where
  ask c _ h := (c.role_push _).trans h
  read c net h := (c.role_read net).trans h
  flush c w h := (c.role_flush w).trans h

namespace CorrelatorArray

/-- The control channel has the one property, and the monitor channel the other. -/
structure OnChannels (P Q : Channel → Prop) (a : CorrelatorArray) : Prop where
  control : P a.control
  monitor : Q a.monitor

variable {a : CorrelatorArray}

theorem OnChannels.ensureSensor (h : a.OnChannels P Q) (path : SensorPath) :
    (a.ensureSensor path).1.OnChannels P Q :=
  ⟨h.control, h.monitor⟩

theorem OnChannels.subscribe (hQ : Channel.Stays ν Q) (h : a.OnChannels P Q)
    (paths : List SensorPath) : (a.subscribe paths).OnChannels P Q := by
  induction paths generalizing a with
  | nil => exact h
  | cons path rest ih =>
    have hensure := h.ensureSensor path
    unfold CorrelatorArray.subscribe
    split
    · rename_i a' heq
      rw [heq] at hensure
      exact ih ⟨hensure.control, hQ.ask _ _ hensure.monitor⟩
    · rename_i a' reason heq
      rwa [heq] at hensure

theorem OnChannels.subscribeAll (hQ : Channel.Stays ν Q) (h : a.OnChannels P Q)
    (patterns : List Pattern) : (a.subscribeAll patterns).OnChannels P Q := by
  induction patterns generalizing a with
  | nil => exact h
  | cons p rest ih => exact ih (h.subscribe hQ _)

theorem OnChannels.activate (hP : Channel.Stays ν P) (hQ : Channel.Stays ν Q)
    (h : a.OnChannels P Q) : a.activate.OnChannels P Q := by
  have hcounted : OnChannels P Q { a with activations := a.activations + 1 } :=
    ⟨h.control, h.monitor⟩
  have hplan := (hcounted.subscribeAll hQ a.plan.patterns).ensureSensor (.array deviceStatus)
  exact ⟨hP.ask _ _ hplan.control, hQ.ask _ _ (hQ.ask _ _ hplan.monitor)⟩

theorem OnChannels.setInstrumentState (hP : Channel.Stays ν P) (hQ : Channel.Stays ν Q)
    (h : a.OnChannels P Q) (state configFile : String) :
    (a.setInstrumentState state configFile).OnChannels P Q := by
  have htold : (a.told state configFile).OnChannels P Q := ⟨h.control, h.monitor⟩
  rcases a.setInstrumentState_cases state configFile with ⟨-, hset⟩ | ⟨-, ⟨-, hset⟩ | ⟨-, hset⟩⟩
  · rwa [hset]
  · rw [hset]
    exact htold.activate hP hQ
  · rwa [hset]

theorem OnChannels.controlEvent (hP : Channel.Stays ν P) (hQ : Channel.Stays ν Q)
    (h : a.OnChannels P Q) (metrics : Metrics) (event : ChannelEvent) :
    (a.controlEvent metrics event).1.OnChannels P Q := by
  rcases a.controlEvent_cases metrics event with
    ⟨state, configFile, -, hevent⟩ | ⟨-, tree, -, hevent⟩
  · rw [hevent]
    exact h.setInstrumentState hP hQ state configFile
  · rw [hevent]
    exact ⟨h.control, h.monitor⟩

theorem OnChannels.monitorEvent (h : a.OnChannels P Q) (now : Timestamp) (metrics : Metrics)
    (event : ChannelEvent) : (a.monitorEvent now metrics event).1.OnChannels P Q := by
  rcases a.monitorEvent_cases now metrics event with
    ⟨r, tree, -, -, hevent⟩ | ⟨-, tree, -, -, hevent⟩
  · rw [hevent]
    exact ⟨h.control, h.monitor⟩
  · rw [hevent]
    exact ⟨h.control, h.monitor⟩

end CorrelatorArray

namespace ArrayMoment

variable {m : ArrayMoment ν}

/-- Nothing that an array does takes a property that stays from its channels. -/
theorem onChannels_step (hP : Channel.Stays ν P) (hQ : Channel.Stays ν Q)
    (h : m.array.OnChannels P Q) (act : ArrayAct ν) : (m.step act).array.OnChannels P Q := by
  cases act with
  | activate => exact h.activate hP hQ
  | add path => exact h.ensureSensor path
  | mark liveness => exact ⟨h.control, h.monitor⟩
  | takeControl => exact ⟨hP.read _ _ h.control, h.monitor⟩
  | takeMonitor => exact ⟨h.control, hQ.read _ _ h.monitor⟩
  | control =>
    rcases m.step_control_cases with ⟨-, hstep⟩ | ⟨event, todo, -, hstep⟩
    · rwa [hstep]
    · rw [hstep]
      exact h.controlEvent hP hQ m.world.metrics event
  | monitor now =>
    rcases m.step_monitor_cases now with ⟨-, hstep⟩ | ⟨event, todo, -, hstep⟩
    · rwa [hstep]
    · rw [hstep]
      exact h.monitorEvent now m.world.metrics event
  | flush => exact ⟨hP.flush _ _ h.control, hQ.flush _ _ h.monitor⟩
  | remote move => exact h

theorem onChannels_run (hP : Channel.Stays ν P) (hQ : Channel.Stays ν Q)
    (h : m.array.OnChannels P Q) (acts : List (ArrayAct ν)) :
    (m.run acts).array.OnChannels P Q :=
  run_keeps (P := fun m => m.array.OnChannels P Q) (fun _ act hm => onChannels_step hP hQ hm act)
    h acts

end ArrayMoment

namespace CorrelatorArray

variable {a b : CorrelatorArray}

/-- An array between two calls. -/
def resting (a : CorrelatorArray) (w : World ν) : ArrayMoment ν := ⟨a, w, [], [], [], [], []⟩

theorem OnChannels.receive (hP : Channel.Stays ν P) (hQ : Channel.Stays ν Q)
    (h : a.OnChannels P Q) (now : Timestamp) (w : World ν) :
    (a.receive now w).1.OnChannels P Q := by
  obtain ⟨acts, controlDone, monitorDone, readings, hrun⟩ :=
    (a.resting w).run_receive now rfl rfl
  have hend := ArrayMoment.onChannels_run (m := a.resting w) hP hQ h acts
  rwa [hrun] at hend

theorem OnChannels.ownStep (hP : Channel.Stays ν P) (hQ : Channel.Stays ν Q)
    (h : a.OnChannels P Q) (hstep : a.OwnStep ν b) : b.OnChannels P Q := by
  cases hstep with
  | receive now w => exact h.receive hP hQ now w
  | flush w => exact ⟨hP.flush _ w h.control, hQ.flush _ _ h.monitor⟩
  | markSuspect => exact ⟨h.control, h.monitor⟩
  | markFine => exact ⟨h.control, h.monitor⟩

end CorrelatorArray

end Stays

end ArrayWatch
