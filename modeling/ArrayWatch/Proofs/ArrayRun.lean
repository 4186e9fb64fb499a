import ArrayWatch.Proofs.ArrayIdentity
import ArrayWatch.Proofs.TreeChange

/-!
# Runs of an array

An array takes what came on one of its channels, and then acts on the events one after the other. A
run is cut into these parts, so that it can be said what holds before and after every event. The
parts come in any order, with activations and additions of sensors in between.

* `ArrayMoment.step` is one part. `ArrayMoment.run_receive`: the parts make up a call that receives.
* `CorrelatorArray.controlEvent_cases`, `CorrelatorArray.monitorEvent_cases`: all that an event does
  to an array.
* `CorrelatorArray.activate_eq`: all that an activation does.
* `ArrayMoment.ready_step`: the tree of an array stays sound.
-/

namespace ArrayWatch

/-! ## What an event says -/

/-- The status and the value that an event reports for the instrument. -/
def ChannelEvent.instrument? : ChannelEvent → Option (String × String)
  | .reply .. => none
  | .inform m =>
    if (m.name? = some "sensor-status" ∨ m.name? = some "sensor-value") ∧
        m.arg? 3 = some "instrument-state" then
      some ((m.arg? 4).getD "none", (m.arg? 5).getD "none")
    else none

/-- What an inform brings to a sensor. -/
structure Reading where
  path : SensorPath
  value : String
  status : String
  time : Timestamp
  deriving DecidableEq, Repr

/-- The reading that an event on the monitor channel brings, where it names a sensor of the tree. -/
def SensorTree.reading? (t : SensorTree) (now : Timestamp) : ChannelEvent → Option Reading
  | .reply .. => none
  | .inform m =>
    let name := (m.arg? 3).getD "none"
    if m.name? = some "sensor-status" ∧ name ≠ "hostname-functional-mapping" then
      match SensorPath.parse name with
      | .ok path =>
        if (t.sensor? path).isSome then
          some ⟨path, (m.arg? 5).getD "none", (m.arg? 4).getD "none", now⟩
        else none
      | .error _ => none
    else none

/-- An inform with one of the two names is read word by word, and no other one is read. -/
theorem SensorReport.ofInform?_cases (m : Message) :
    ((m.name? = some "sensor-status" ∨ m.name? = some "sensor-value") ∧
        ∃ missing, ofInform? m = some ⟨(m.arg? 3).getD "none", (m.arg? 4).getD "none",
          (m.arg? 5).getD "none", missing⟩) ∨
      ¬ (m.name? = some "sensor-status" ∨ m.name? = some "sensor-value") ∧
        ofInform? m = none := by
  unfold ofInform?
  by_cases hname : m.name? = some "sensor-status" ∨ m.name? = some "sensor-value"
  · exact .inl ⟨hname, _, if_pos hname⟩
  · exact .inr ⟨hname, if_neg hname⟩

namespace CorrelatorArray

/-! ## Quiet changes of an array -/

theorem quiet_ensureSensor (a : CorrelatorArray) (path : SensorPath) :
    a.tree.Quiet (a.ensureSensor path).1.tree :=
  .single (.ensure a.tree path)

theorem quiet_subscribe (a : CorrelatorArray) (paths : List SensorPath) :
    a.tree.Quiet (a.subscribe paths).tree := by
  induction paths generalizing a with
  | nil => exact .refl a.tree
  | cons path rest ih =>
    have hensure := a.quiet_ensureSensor path
    unfold subscribe
    split
    · rename_i a' h
      rw [h] at hensure
      exact hensure.trans (ih (a'.sampleOnMonitor path.text))
    · rename_i a' reason h
      rw [h] at hensure
      exact hensure

theorem quiet_subscribeAll (a : CorrelatorArray) (patterns : List Pattern) :
    a.tree.Quiet (a.subscribeAll patterns).tree := by
  induction patterns generalizing a with
  | nil => exact .refl a.tree
  | cons p rest ih => exact (a.quiet_subscribe _).trans (ih _)

theorem quiet_activate (a : CorrelatorArray) : a.tree.Quiet a.activate.tree :=
  (quiet_subscribeAll { a with activations := a.activations + 1 } _).trans
    (quiet_ensureSensor _ (.array deviceStatus))

/-- The array as it is when it was told about its instrument, and nothing came of it yet. -/
def told (a : CorrelatorArray) (state configFile : String) : CorrelatorArray :=
  { a with instrumentState := state, configFile := configFile }

/-- A report about the instrument changes nothing if the one before said the same. It activates the
array if it is new and says that the instrument is nominal. -/
theorem setInstrumentState_cases (a : CorrelatorArray) (state configFile : String) :
    (state = a.instrumentState ∧ configFile = a.configFile) ∧
        a.setInstrumentState state configFile = a ∨
      ¬ (state = a.instrumentState ∧ configFile = a.configFile) ∧
        (state = nominalState ∧
            a.setInstrumentState state configFile = (a.told state configFile).activate ∨
          state ≠ nominalState ∧
            a.setInstrumentState state configFile = a.told state configFile) := by
  unfold setInstrumentState
  by_cases hold : state = a.instrumentState ∧ configFile = a.configFile
  · exact .inl ⟨hold, if_pos hold⟩
  · rw [if_neg hold]
    by_cases hnominal : state = nominalState
    · exact .inr ⟨hold, .inl ⟨hnominal, if_pos hnominal⟩⟩
    · exact .inr ⟨hold, .inr ⟨hnominal, if_neg hnominal⟩⟩

theorem quiet_setInstrumentState (a : CorrelatorArray) (state configFile : String) :
    a.tree.Quiet (a.setInstrumentState state configFile).tree := by
  rcases a.setInstrumentState_cases state configFile with ⟨-, hset⟩ | ⟨-, ⟨-, hset⟩ | ⟨-, hset⟩⟩
  · rw [hset]
    exact .refl a.tree
  · rw [hset]
    exact (a.told state configFile).quiet_activate
  · rw [hset]
    exact .refl a.tree

/-! ## Events -/

/-- An event on the control channel tells the state of the instrument, or it gives labels to inputs
at most. -/
theorem controlEvent_cases (a : CorrelatorArray) (metrics : Metrics) (event : ChannelEvent) :
    (∃ state configFile, event.instrument? = some (state, configFile) ∧
        (a.controlEvent metrics event).1 = a.setInstrumentState state configFile) ∨
      event.instrument? = none ∧ ∃ tree, a.tree.Quiet tree ∧
        (a.controlEvent metrics event).1 = { a with tree } := by
  cases event with
  | reply request answer => exact .inr ⟨rfl, a.tree, .refl a.tree, rfl⟩
  | inform m =>
    rcases SensorReport.ofInform?_cases m with ⟨hname, missing, hreport⟩ | ⟨hname, hreport⟩
    · obtain ⟨name, hsome⟩ : ∃ name, m.name? = some name := by
        rcases hname with h | h <;> exact ⟨_, h⟩
      by_cases hsensor : m.arg? 3 = some "instrument-state"
      · refine .inl ⟨_, _, if_pos ⟨hname, hsensor⟩, ?_⟩
        simp [controlEvent, hsome, hreport, controlReport, hsensor, instrumentStateSensor]
      · refine .inr ⟨if_neg fun h => hsensor h.2, ?_⟩
        have hother : (m.arg? 3).getD "none" ≠ instrumentStateSensor := by
          cases hword : m.arg? 3 with
          | none => decide
          | some word =>
            rw [hword] at hsensor
            exact fun h => hsensor (congrArg some h)
        simp only [controlEvent, hsome, hreport, controlReport, if_neg hother]
        split
        · exact ⟨_, a.tree.quiet_applyLabels _, rfl⟩
        · exact ⟨a.tree, .refl a.tree, rfl⟩
    · refine .inr ⟨if_neg fun h => hname h.1, a.tree, .refl a.tree, ?_⟩
      cases hsome : m.name? with
      | none => simp [controlEvent, hsome]
      | some name => simp [controlEvent, hsome, hreport]

theorem quiet_controlEvent (a : CorrelatorArray) (metrics : Metrics) (event : ChannelEvent) :
    a.tree.Quiet (a.controlEvent metrics event).1.tree := by
  rcases a.controlEvent_cases metrics event with
    ⟨state, configFile, -, hevent⟩ | ⟨-, tree, hquiet, hevent⟩
  · rw [hevent]
    exact a.quiet_setInstrumentState state configFile
  · rw [hevent]
    exact hquiet

/-- A reading is taken where it names a sensor of the tree, and only there. -/
theorem setReading_cases (a : CorrelatorArray) (r : SensorReport) (now : Timestamp) :
    (∃ path tree, SensorPath.parse r.sensor = .ok path ∧ (a.tree.sensor? path).isSome ∧
        a.tree.update path r.value r.status now = .ok tree ∧
        a.setReading r now = ({ a with tree, updatedAt := some now }, 0)) ∨
      (∀ path, SensorPath.parse r.sensor = .ok path → ¬ (a.tree.sensor? path).isSome) ∧
        (a.setReading r now).1 = a := by
  unfold setReading SensorTree.updateByName
  cases hparse : SensorPath.parse r.sensor with
  | error e => exact .inr ⟨nofun, rfl⟩
  | ok path =>
    by_cases hsome : (a.tree.sensor? path).isSome
    · obtain ⟨tree, htree⟩ := SensorTree.exists_ok_update.2 hsome
      exact .inl ⟨path, tree, rfl, hsome, htree, by simp [bind, Except.bind, htree]⟩
    · refine .inr ⟨?_, ?_⟩
      · intro other hother
        obtain rfl := Except.ok.inj hother
        exact hsome
      · cases hupdate : a.tree.update path r.value r.status now with
        | ok tree => exact absurd (SensorTree.exists_ok_update.1 ⟨tree, hupdate⟩) hsome
        | error e => simp [bind, Except.bind, hupdate]

/-- An update for a sensor is taken as a reading. -/
theorem monitorEvent_of_update (a : CorrelatorArray) (now : Timestamp) (metrics : Metrics)
    {m : Message} (hname : m.name? = some "sensor-status")
    (hsensor : (m.arg? 3).getD "none" ≠ "hostname-functional-mapping") :
    ∃ missing, (a.monitorEvent now metrics (.inform m)).1 =
      (a.setReading ⟨(m.arg? 3).getD "none", (m.arg? 4).getD "none", (m.arg? 5).getD "none",
        missing⟩ now).1 := by
  rcases SensorReport.ofInform?_cases m with ⟨-, missing, hreport⟩ | ⟨hother, -⟩
  · refine ⟨missing, ?_⟩
    have hmapping : (m.arg? 3).getD "none" ≠ hostMappingSensor := hsensor
    have hupdate : "sensor-status" = SensorReport.updateName := rfl
    simp only [monitorEvent, hname, hreport, monitorReport, if_neg hmapping, if_pos hupdate]
  · exact absurd (.inl hname) hother

/-- Any other inform brings serials at most. -/
theorem monitorEvent_of_not_update (a : CorrelatorArray) (now : Timestamp) (metrics : Metrics)
    {m : Message} (h : ¬ (m.name? = some "sensor-status" ∧
      (m.arg? 3).getD "none" ≠ "hostname-functional-mapping")) :
    ∃ tree, a.tree.Quiet tree ∧ tree.unread = a.tree.unread ∧
      (a.monitorEvent now metrics (.inform m)).1 = { a with tree } := by
  cases hname : m.name? with
  | none =>
    refine ⟨a.tree, .refl a.tree, rfl, ?_⟩
    simp only [monitorEvent, hname]
  | some name =>
    rcases SensorReport.ofInform?_cases m with ⟨-, missing, hreport⟩ | ⟨-, hreport⟩
    · by_cases hmapping : (m.arg? 3).getD "none" = hostMappingSensor
      · obtain ⟨hquiet, hunread⟩ := a.tree.quiet_applyMappings
          (HostMapping.ofPayload ((m.arg? 5).getD "none") (2 * a.antennas))
        refine ⟨_, hquiet, hunread, ?_⟩
        simp only [monitorEvent, hname, hreport, monitorReport, if_pos hmapping]
        rfl
      · have hother : name ≠ SensorReport.updateName := by
          rintro rfl
          exact h ⟨hname, hmapping⟩
        refine ⟨a.tree, .refl a.tree, rfl, ?_⟩
        simp only [monitorEvent, hname, hreport, monitorReport, if_neg hmapping, if_neg hother]
    · refine ⟨a.tree, .refl a.tree, rfl, ?_⟩
      simp only [monitorEvent, hname, hreport]

/-- An event on the monitor channel brings a reading, or serials at most. -/
theorem monitorEvent_cases (a : CorrelatorArray) (now : Timestamp) (metrics : Metrics)
    (event : ChannelEvent) :
    (∃ r tree, a.tree.reading? now event = some r ∧
        a.tree.update r.path r.value r.status r.time = .ok tree ∧
        (a.monitorEvent now metrics event).1 = { a with tree, updatedAt := some r.time }) ∨
      a.tree.reading? now event = none ∧ ∃ tree, a.tree.Quiet tree ∧ tree.unread = a.tree.unread ∧
        (a.monitorEvent now metrics event).1 = { a with tree } := by
  cases event with
  | reply request answer => exact .inr ⟨rfl, a.tree, .refl a.tree, rfl, rfl⟩
  | inform m =>
    -- whether the inform is for the mapping comes before what its name leads to
    unfold SensorTree.reading?
    dsimp only
    by_cases h : m.name? = some "sensor-status" ∧
        (m.arg? 3).getD "none" ≠ "hostname-functional-mapping"
    · rw [if_pos h]
      obtain ⟨missing, hevent⟩ := a.monitorEvent_of_update now metrics h.1 h.2
      rw [hevent]
      let r : SensorReport := ⟨(m.arg? 3).getD "none", (m.arg? 4).getD "none",
        (m.arg? 5).getD "none", missing⟩
      rcases a.setReading_cases r now with
        ⟨path, tree, hparse, hthere, htree, hset⟩ | ⟨hnowhere, hset⟩
      · refine .inl ⟨⟨path, r.value, r.status, now⟩, tree, ?_, htree, congrArg Prod.fst hset⟩
        rw [hparse]
        exact if_pos hthere
      · refine .inr ⟨?_, a.tree, .refl a.tree, rfl, hset⟩
        cases hparse : SensorPath.parse r.sensor with
        | ok path => exact if_neg (hnowhere path hparse)
        | error e => rfl
    · rw [if_neg h]
      exact .inr ⟨rfl, a.monitorEvent_of_not_update now metrics h⟩

/-! ## Activation -/

end CorrelatorArray

/-- Gives requests to a channel, one after the other. -/
def Channel.pushAll (c : Channel) (requests : List Message) : Channel :=
  requests.foldl Channel.push c

/-- Makes sure of sensors, one after the other. -/
def SensorTree.ensureAll (t : SensorTree) (paths : List SensorPath) : SensorTree :=
  paths.foldl (fun t path => (t.ensure path).1) t

theorem Channel.pushAll_append (c : Channel) (first rest : List Message) :
    c.pushAll (first ++ rest) = (c.pushAll first).pushAll rest :=
  List.foldl_append

theorem SensorTree.ensureAll_append (t : SensorTree) (first rest : List SensorPath) :
    t.ensureAll (first ++ rest) = (t.ensureAll first).ensureAll rest :=
  List.foldl_append

/-- The sensors that a plan stands for. -/
def Plan.targets (plan : Plan) (antennas : Nat) : List SensorPath :=
  plan.patterns.flatMap (·.targets antennas plan.enginesPerHost)

theorem Pattern.within_targets (p : Pattern) (antennas enginesPerHost : Nat) :
    ∀ path ∈ p.targets antennas enginesPerHost, path.Within antennas := by
  intro path hpath
  cases p with
  | array sensor =>
    obtain rfl := List.mem_singleton.1 hpath
    trivial
  | device team name =>
    obtain ⟨i, hi, rfl⟩ := List.mem_map.1 hpath
    exact List.mem_range.1 hi
  | engineDevice team base name =>
    obtain ⟨i, hi, hpath⟩ := List.mem_flatMap.1 hpath
    obtain ⟨j, -, rfl⟩ := List.mem_map.1 hpath
    exact List.mem_range.1 hi

namespace CorrelatorArray

/-- The tree of an array is sound and has the size of the array. -/
structure Ready (a : CorrelatorArray) : Prop where
  sound : a.tree.Sound
  antennas : a.tree.antennas = a.antennas

theorem Ready.told {a : CorrelatorArray} (h : a.Ready) (state configFile : String) :
    (a.told state configFile).Ready :=
  ⟨h.sound, h.antennas⟩

theorem Ready.ensure {a : CorrelatorArray} (h : a.Ready) {path : SensorPath}
    (hpath : path.Within a.antennas) : (a.ensureSensor path).2 = .ok () := by
  have hok : (a.tree.ensure path).2 = .ok () := by
    rw [SensorTree.ensure_eq_ok_iff h.sound, h.antennas]
    exact hpath
  show (a.tree.ensure path).2.mapError ArrayError.tree = .ok ()
  rw [hok]
  rfl

theorem Ready.of_quiet {a b : CorrelatorArray} (h : a.Ready) (hquiet : a.tree.Quiet b.tree)
    (hspec : b.spec = a.spec) : b.Ready := by
  refine ⟨hquiet.sound h.sound, ?_⟩
  rw [hquiet.antennas, h.antennas]
  unfold CorrelatorArray.antennas
  rw [hspec]

theorem subscribe_eq {a : CorrelatorArray} (h : a.Ready) {paths : List SensorPath}
    (hpaths : ∀ path ∈ paths, path.Within a.antennas) :
    a.subscribe paths = { a with
      tree := a.tree.ensureAll paths
      monitor := a.monitor.pushAll (paths.map fun path => .sensorSampling path.text) } := by
  induction paths generalizing a with
  | nil => rfl
  | cons path rest ih =>
    have hensured : a.ensureSensor path =
        ({ a with tree := (a.tree.ensure path).1 }, .ok ()) := by
      have hok := h.ensure (hpaths path List.mem_cons_self)
      rw [← hok]
      rfl
    let next := ({ a with tree := (a.tree.ensure path).1 }).sampleOnMonitor path.text
    have hnext : next.Ready := h.of_quiet (a.quiet_ensureSensor path) rfl
    have hrest : ∀ path ∈ rest, path.Within next.antennas :=
      fun path hpath => hpaths path (List.mem_cons_of_mem _ hpath)
    unfold subscribe
    rw [hensured]
    exact ih hnext hrest

theorem subscribeAll_eq {a : CorrelatorArray} (h : a.Ready) (patterns : List Pattern) :
    a.subscribeAll patterns =
      let paths := patterns.flatMap (·.targets a.antennas a.plan.enginesPerHost)
      { a with
        tree := a.tree.ensureAll paths
        monitor := a.monitor.pushAll (paths.map fun path => .sensorSampling path.text) } := by
  induction patterns generalizing a with
  | nil => rfl
  | cons p rest ih =>
    have hfirst := subscribe_eq h (p.within_targets a.antennas a.plan.enginesPerHost)
    have hready : (a.subscribe (p.targets a.antennas a.plan.enginesPerHost)).Ready :=
      h.of_quiet (a.quiet_subscribe _) (a.spec_subscribe _)
    have hcons : a.subscribeAll (p :: rest) =
        (a.subscribe (p.targets a.antennas a.plan.enginesPerHost)).subscribeAll rest := rfl
    rw [hcons, ih hready, hfirst]
    dsimp only
    rw [List.flatMap_cons, List.map_append, Channel.pushAll_append, SensorTree.ensureAll_append]
    rfl

/-- An activation makes sure of every sensor of the plan and asks for it, in the order of the
plan. -/
theorem activate_eq {a : CorrelatorArray} (h : a.Ready) :
    a.activate = { a with
      activations := a.activations + 1
      tree := a.tree.ensureAll (a.plan.targets a.antennas ++ [.array deviceStatus])
      monitor := a.monitor.pushAll
        (((a.plan.targets a.antennas).map fun path => .sensorSampling path.text) ++
          [.sensorSampling deviceStatus, .sensorSampling hostMappingSensor])
      control := a.control.push (.sensorSampling inputLabellingSensor) } := by
  have hready : ({ a with activations := a.activations + 1 } : CorrelatorArray).Ready :=
    ⟨h.sound, h.antennas⟩
  unfold activate
  dsimp only
  rw [subscribeAll_eq hready]
  dsimp only
  rw [Channel.pushAll_append, SensorTree.ensureAll_append]
  rfl

/-! ## What no event changes -/

theorem settings_of_standing {a b : CorrelatorArray} (h : b.standing = a.standing) :
    b.spec = a.spec ∧ b.plan = a.plan := by
  have hidentity := identity_eq_of_standing h
  exact ⟨congrArg ArrayIdentity.spec hidentity, congrArg ArrayIdentity.plan hidentity⟩

theorem ready_ofLinks (spec : Announcement) (cmcAddress : String) (plan : Plan)
    (maxRetries : UInt32) (control monitor : Link) :
    (ofLinks spec cmcAddress plan maxRetries control monitor).Ready :=
  ⟨SensorTree.sound_empty spec.name spec.antennas, rfl⟩

theorem Ready.controlEvent {a : CorrelatorArray} (h : a.Ready) (metrics : Metrics)
    (event : ChannelEvent) : (a.controlEvent metrics event).1.Ready := by
  have hspec := (settings_of_standing (a.standing_controlEvent metrics event)).1
  exact h.of_quiet (a.quiet_controlEvent metrics event) hspec

theorem Ready.monitorEvent {a : CorrelatorArray} (h : a.Ready) (now : Timestamp)
    (metrics : Metrics) (event : ChannelEvent) : (a.monitorEvent now metrics event).1.Ready := by
  rcases a.monitorEvent_cases now metrics event with
    ⟨r, tree, -, hupdate, hevent⟩ | ⟨-, tree, hquiet, -, hevent⟩
  · rw [hevent]
    refine ⟨SensorTree.sound_update h.sound hupdate, ?_⟩
    exact (SensorTree.antennas_eq_of_unread (SensorTree.unread_update hupdate)).trans h.antennas
  · rw [hevent]
    exact h.of_quiet hquiet rfl

end CorrelatorArray

/-! ## Moments of a run -/

/-- An array in its world, in the midst of its work. -/
structure ArrayMoment (ν : Type) where
  array : CorrelatorArray
  world : World ν
  /-- The events of the control channel that have been acted on. -/
  controlDone : List ChannelEvent
  /-- The events of the control channel that are still to be acted on. -/
  controlTodo : List ChannelEvent
  monitorDone : List ChannelEvent
  monitorTodo : List ChannelEvent
  /-- The readings that found a sensor when they came, oldest first. -/
  readings : List Reading

/-- What happens next. -/
inductive ArrayAct (ν : Type) where
  | activate
  | add (path : SensorPath)
  | mark (liveness : Liveness)
  /-- The control channel takes what came on its link. -/
  | takeControl
  | takeMonitor
  /-- The next event of the control channel is acted on. -/
  | control
  | monitor (now : Timestamp)
  | flush
  /-- The remote sides do something. -/
  | remote (move : ν → ν)

namespace ArrayMoment

/-- An array that was just announced. -/
def start {ν : Type} (spec : Announcement) (cmcAddress : String) (plan : Plan)
    (maxRetries : UInt32) (control monitor : Link) (world : World ν) : ArrayMoment ν :=
  ⟨.ofLinks spec cmcAddress plan maxRetries control monitor, world, [], [], [], [], []⟩

variable {ν : Type} [Network ν]

def takeControl (m : ArrayMoment ν) : ArrayMoment ν :=
  let (control, events, net) := m.array.control.read m.world.net
  { m with
    array := { m.array with control }
    world := { m.world with net }
    controlTodo := m.controlTodo ++ events }

def takeMonitor (m : ArrayMoment ν) : ArrayMoment ν :=
  let (monitor, events, net) := m.array.monitor.read m.world.net
  { m with
    array := { m.array with monitor }
    world := { m.world with net }
    monitorTodo := m.monitorTodo ++ events }

def control (m : ArrayMoment ν) (event : ChannelEvent) (todo : List ChannelEvent) :
    ArrayMoment ν :=
  let (array, metrics) := m.array.controlEvent m.world.metrics event
  { m with
    array
    world := { m.world with metrics }
    controlDone := m.controlDone ++ [event]
    controlTodo := todo }

def monitor (m : ArrayMoment ν) (now : Timestamp) (event : ChannelEvent)
    (todo : List ChannelEvent) : ArrayMoment ν :=
  let (array, metrics) := m.array.monitorEvent now m.world.metrics event
  { m with
    array
    world := { m.world with metrics }
    monitorDone := m.monitorDone ++ [event]
    monitorTodo := todo
    readings := m.readings ++ (m.array.tree.reading? now event).toList }

def step (m : ArrayMoment ν) : ArrayAct ν → ArrayMoment ν
  | .activate => { m with array := m.array.activate }
  | .add path => { m with array := (m.array.ensureSensor path).1 }
  | .mark liveness => { m with array := { m.array with liveness } }
  | .takeControl => m.takeControl
  | .takeMonitor => m.takeMonitor
  | .control =>
    match m.controlTodo with
    | [] => m
    | event :: todo => m.control event todo
  | .monitor now =>
    match m.monitorTodo with
    | [] => m
    | event :: todo => m.monitor now event todo
  | .flush =>
    let (array, world) := m.array.flush m.world
    { m with array, world }
  | .remote move => { m with world.net := move m.world.net }

def run (m : ArrayMoment ν) (acts : List (ArrayAct ν)) : ArrayMoment ν :=
  acts.foldl step m

theorem step_control_cases (m : ArrayMoment ν) :
    m.controlTodo = [] ∧ m.step .control = m ∨
      ∃ event todo, m.controlTodo = event :: todo ∧ m.step .control = m.control event todo := by
  unfold step
  cases m.controlTodo with
  | nil => exact .inl ⟨rfl, rfl⟩
  | cons event todo => exact .inr ⟨event, todo, rfl, rfl⟩

theorem step_monitor_cases (m : ArrayMoment ν) (now : Timestamp) :
    m.monitorTodo = [] ∧ m.step (.monitor now) = m ∨
      ∃ event todo, m.monitorTodo = event :: todo ∧
        m.step (.monitor now) = m.monitor now event todo := by
  unfold step
  cases m.monitorTodo with
  | nil => exact .inl ⟨rfl, rfl⟩
  | cons event todo => exact .inr ⟨event, todo, rfl, rfl⟩

/-- What holds at the start and is kept by every part holds after every run. -/
theorem run_keeps {P : ArrayMoment ν → Prop} (hstep : ∀ m act, P m → P (m.step act))
    {m : ArrayMoment ν} (h : P m) (acts : List (ArrayAct ν)) : P (m.run acts) := by
  induction acts generalizing m with
  | nil => exact h
  | cons act rest ih => exact ih (hstep m act h)

theorem run_append (m : ArrayMoment ν) (first rest : List (ArrayAct ν)) :
    m.run (first ++ rest) = (m.run first).run rest :=
  List.foldl_append

/-! ### Calls and their parts -/

theorem run_control (m : ArrayMoment ν) (todo : List ChannelEvent) :
    run { m with controlTodo := todo } (List.replicate todo.length .control) =
      { m with
        array := (m.array.controlEvents m.world.metrics todo).1
        world.metrics := (m.array.controlEvents m.world.metrics todo).2
        controlDone := m.controlDone ++ todo
        controlTodo := [] } := by
  induction todo generalizing m with
  | nil => simp [run, CorrelatorArray.controlEvents]
  | cons event rest ih =>
    have hrest := ih (m.control event rest)
    simp only [control, List.append_assoc, List.cons_append, List.nil_append] at hrest
    exact hrest

theorem run_monitor (m : ArrayMoment ν) (now : Timestamp) (todo : List ChannelEvent) :
    ∃ readings, run { m with monitorTodo := todo } (List.replicate todo.length (.monitor now)) =
      { m with
        array := (m.array.monitorEvents now m.world.metrics todo).1
        world.metrics := (m.array.monitorEvents now m.world.metrics todo).2
        monitorDone := m.monitorDone ++ todo
        monitorTodo := []
        readings } := by
  induction todo generalizing m with
  | nil => exact ⟨m.readings, by simp [run, CorrelatorArray.monitorEvents]⟩
  | cons event rest ih =>
    obtain ⟨readings, hrest⟩ := ih (m.monitor now event rest)
    simp only [monitor, List.append_assoc, List.cons_append, List.nil_append] at hrest
    exact ⟨readings, hrest⟩

theorem run_receiveControl (m : ArrayMoment ν) (h : m.controlTodo = []) :
    ∃ acts, m.run acts =
      { m with
        array := (m.array.receiveControl m.world).1
        world := (m.array.receiveControl m.world).2
        controlDone := m.controlDone ++ (m.array.control.read m.world.net).2.1 } := by
  let events := (m.array.control.read m.world.net).2.1
  have htaken : m.step .takeControl = { m.takeControl with controlTodo := events } := by
    simp [step, takeControl, events, h]
  refine ⟨.takeControl :: List.replicate events.length .control, ?_⟩
  show (m.step .takeControl).run _ = _
  rw [htaken, run_control]
  simp only [takeControl, CorrelatorArray.receiveControl, ← h, events]

theorem run_receiveMonitor (m : ArrayMoment ν) (now : Timestamp) (h : m.monitorTodo = []) :
    ∃ acts readings, m.run acts =
      { m with
        array := (m.array.receiveMonitor now m.world).1
        world := (m.array.receiveMonitor now m.world).2
        monitorDone := m.monitorDone ++ (m.array.monitor.read m.world.net).2.1
        readings } := by
  let events := (m.array.monitor.read m.world.net).2.1
  have htaken : m.step .takeMonitor = { m.takeMonitor with monitorTodo := events } := by
    simp [step, takeMonitor, events, h]
  obtain ⟨readings, hrun⟩ := run_monitor m.takeMonitor now events
  refine ⟨.takeMonitor :: List.replicate events.length (.monitor now), readings, ?_⟩
  show (m.step .takeMonitor).run _ = _
  rw [htaken, hrun]
  simp only [takeMonitor, CorrelatorArray.receiveMonitor, ← h, events]

/-- A call that receives is made up of its parts. -/
theorem run_receive (m : ArrayMoment ν) (now : Timestamp) (hcontrol : m.controlTodo = [])
    (hmonitor : m.monitorTodo = []) :
    ∃ acts controlDone monitorDone readings, m.run acts =
      { m with
        array := (m.array.receive now m.world).1
        world := (m.array.receive now m.world).2
        controlDone, monitorDone, readings } := by
  obtain ⟨first, hfirst⟩ := run_receiveControl m hcontrol
  have hmonitor' : (m.run first).monitorTodo = [] := by rw [hfirst, hmonitor]
  obtain ⟨rest, readings, hrest⟩ := run_receiveMonitor (m.run first) now hmonitor'
  refine ⟨first ++ rest, (m.run first).controlDone, (m.run (first ++ rest)).monitorDone,
    readings, ?_⟩
  rw [run_append, hrest, hfirst]
  rfl

/-! ### What holds at every moment -/

theorem settings_step (m : ArrayMoment ν) (act : ArrayAct ν) :
    (m.step act).array.spec = m.array.spec ∧ (m.step act).array.plan = m.array.plan := by
  cases act with
  | activate => exact CorrelatorArray.settings_of_standing m.array.standing_activate
  | add path => exact ⟨rfl, rfl⟩
  | mark liveness => exact ⟨rfl, rfl⟩
  | takeControl => exact ⟨rfl, rfl⟩
  | takeMonitor => exact ⟨rfl, rfl⟩
  | control =>
    rcases m.step_control_cases with ⟨-, hstep⟩ | ⟨event, todo, -, hstep⟩
    · rw [hstep]
      exact ⟨rfl, rfl⟩
    · rw [hstep]
      exact CorrelatorArray.settings_of_standing (m.array.standing_controlEvent _ _)
  | monitor now =>
    rcases m.step_monitor_cases now with ⟨-, hstep⟩ | ⟨event, todo, -, hstep⟩
    · rw [hstep]
      exact ⟨rfl, rfl⟩
    · rw [hstep]
      exact CorrelatorArray.settings_of_standing (m.array.standing_monitorEvent now _ _)
  | flush => exact ⟨rfl, rfl⟩
  | remote move => exact ⟨rfl, rfl⟩

theorem settings_run (m : ArrayMoment ν) (acts : List (ArrayAct ν)) :
    (m.run acts).array.spec = m.array.spec ∧ (m.run acts).array.plan = m.array.plan := by
  apply run_keeps (P := fun m' => m'.array.spec = m.array.spec ∧ m'.array.plan = m.array.plan)
  · intro m' act h
    obtain ⟨hspec, hplan⟩ := m'.settings_step act
    exact ⟨hspec.trans h.1, hplan.trans h.2⟩
  · exact ⟨rfl, rfl⟩

theorem ready_step {m : ArrayMoment ν} (h : m.array.Ready) (act : ArrayAct ν) :
    (m.step act).array.Ready := by
  have hspec := (m.settings_step act).1
  cases act with
  | activate => exact h.of_quiet m.array.quiet_activate hspec
  | add path => exact h.of_quiet (m.array.quiet_ensureSensor path) hspec
  | mark liveness => exact ⟨h.sound, h.antennas⟩
  | takeControl => exact ⟨h.sound, h.antennas⟩
  | takeMonitor => exact ⟨h.sound, h.antennas⟩
  | control =>
    rcases m.step_control_cases with ⟨-, hstep⟩ | ⟨event, todo, -, hstep⟩
    · rw [hstep]
      exact h
    · rw [hstep]
      exact h.controlEvent _ _
  | monitor now =>
    rcases m.step_monitor_cases now with ⟨-, hstep⟩ | ⟨event, todo, -, hstep⟩
    · rw [hstep]
      exact h
    · rw [hstep]
      exact h.monitorEvent now _ _
  | flush => exact ⟨h.sound, h.antennas⟩
  | remote move => exact h

end ArrayMoment

end ArrayWatch
