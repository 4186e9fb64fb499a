import ArrayWatch.Proofs.ArrayRun
import ArrayWatch.Proofs.QueueOrder

/-!
# The requests of an array

What an array asks for is fixed by its plan and by the number of its activations. The control
channel is given two requests at the start and one more with every activation, the monitor channel
one at the start and then the whole plan with every activation, host by host and engine by engine.
No sensor of a plan is refused by the tree, since every team has a host for each antenna. An array
is activated by calls, and by reports that its instrument has become nominal or is nominal with
another configuration.

* `Channel.Serves` is the invariant of one channel, `ArrayMoment.Scripted` that of an array.
* `ArrayMoment.request_script`: the requests of every run.
-/

namespace ArrayWatch

/-! ## What is to be asked for -/

/-- The requests for the sensors of a pattern. -/
def Pattern.requests (antennas enginesPerHost : Nat) : Pattern → List Message
  | .array sensor => [⟨.request, ["sensor-sampling", sensor, "auto"]⟩]
  | .device team name =>
    (List.range antennas).map fun i => ⟨.request,
      ["sensor-sampling", (HostId.mk team i).text ++ "." ++ name ++ ".device-status", "auto"]⟩
  | .engineDevice team base name =>
    (List.range antennas).flatMap fun i => (List.range enginesPerHost).map fun j => ⟨.request,
      ["sensor-sampling", (HostId.mk team i).text ++ "." ++ (base ++ toString j) ++ "." ++ name ++
        ".device-status", "auto"]⟩

/-- What one activation asks for on the monitor channel. -/
def Plan.fanOut (plan : Plan) (antennas : Nat) : List Message :=
  plan.patterns.flatMap (·.requests antennas plan.enginesPerHost) ++
    [⟨.request, ["sensor-sampling", "device-status", "auto"]⟩,
      ⟨.request, ["sensor-sampling", "hostname-functional-mapping", "auto"]⟩]

/-- What so many activations make an array ask for on the control channel. -/
def controlScript (activations : Nat) : List Message :=
  [⟨.request, ["log-local", "off"]⟩,
    ⟨.request, ["sensor-sampling", "instrument-state", "auto"]⟩] ++
    List.replicate activations ⟨.request, ["sensor-sampling", "input-labelling", "auto"]⟩

def monitorScript (plan : Plan) (antennas activations : Nat) : List Message :=
  ⟨.request, ["log-local", "off"]⟩ :: (List.replicate activations (plan.fanOut antennas)).flatten

/-- How many of some reports about the instrument differ from the one before and say that it is
nominal. -/
def nominalChanges (last : String × String) : List (String × String) → Nat
  | [] => 0
  | report :: rest =>
    (if report ≠ last ∧ report.1 = "nominal" then 1 else 0) + nominalChanges report rest

theorem Pattern.map_targets (antennas enginesPerHost : Nat) (p : Pattern) :
    (p.targets antennas enginesPerHost).map (fun path => Message.sensorSampling path.text) =
      p.requests antennas enginesPerHost := by
  have hjoin : ∀ text : String, text ++ "." ++ deviceStatus = text ++ ".device-status" := by
    intro text
    rw [String.append_assoc]
    rfl
  cases p with
  | array sensor => rfl
  | device team name =>
    rw [targets, requests, List.map_map]
    apply List.map_congr_left
    intro i _
    exact congrArg Message.sensorSampling (hjoin _)
  | engineDevice team base name =>
    rw [targets, requests, List.map_flatMap]
    apply List.flatMap_congr
    intro i _
    rw [List.map_map]
    apply List.map_congr_left
    intro j _
    exact congrArg Message.sensorSampling (hjoin _)

example : (Pattern.engineDevice 'x' "xeng" "vacc").requests 2 2 =
    [⟨.request, ["sensor-sampling", "xhost00.xeng0.vacc.device-status", "auto"]⟩,
      ⟨.request, ["sensor-sampling", "xhost00.xeng1.vacc.device-status", "auto"]⟩,
      ⟨.request, ["sensor-sampling", "xhost01.xeng0.vacc.device-status", "auto"]⟩,
      ⟨.request, ["sensor-sampling", "xhost01.xeng1.vacc.device-status", "auto"]⟩] := by
  rfl

theorem Plan.fanOut_eq (plan : Plan) (antennas : Nat) :
    plan.fanOut antennas =
      (plan.targets antennas).map (fun path => Message.sensorSampling path.text) ++
        [.sensorSampling deviceStatus, .sensorSampling CorrelatorArray.hostMappingSensor] := by
  unfold fanOut targets
  rw [List.map_flatMap]
  simp only [Pattern.map_targets]
  rfl

theorem controlScript_succ (activations : Nat) :
    controlScript (activations + 1) =
      controlScript activations ++ [.sensorSampling CorrelatorArray.inputLabellingSensor] := by
  unfold controlScript
  rw [List.replicate_succ', ← List.append_assoc]
  rfl

theorem monitorScript_succ (plan : Plan) (antennas activations : Nat) :
    monitorScript plan antennas (activations + 1) =
      monitorScript plan antennas activations ++ plan.fanOut antennas := by
  simp [monitorScript, List.replicate_succ']

theorem nominalChanges_concat (last : String × String) (reports : List (String × String))
    (report : String × String) :
    nominalChanges last (reports ++ [report]) = nominalChanges last reports +
      if report ≠ reports.getLast?.getD last ∧ report.1 = "nominal" then 1 else 0 := by
  induction reports generalizing last with
  | nil => exact Nat.add_comm _ _
  | cons first rest ih =>
    have hlast : (first :: rest).getLast?.getD last = rest.getLast?.getD first := by
      rw [List.getLast?_cons]
      rfl
    rw [List.cons_append, nominalChanges, nominalChanges, ih, hlast, Nat.add_assoc]

/-! ## Channels -/

namespace Channel

/-- The requests that a channel was given since it was made, where these are its events. -/
def asked (c : Channel) (events : List ChannelEvent) : List Message :=
  (settle c.maxRetries events).finished ++ c.current.toList ++ c.queue.messages

/-- The channel was given these requests and has not lost one. -/
def Serves (cap : UInt32) (script : List Message) (events : List ChannelEvent) (c : Channel) :
    Prop :=
  ∃ sent, c.InOrder cap script sent events

section Serves

variable {cap : UInt32} {script : List Message} {events : List ChannelEvent} {c : Channel}

theorem Serves.asked_eq (h : c.Serves cap script events) : c.asked events = script := by
  obtain ⟨sent, horder⟩ := h
  unfold asked
  rw [horder.maxRetries]
  exact horder.asked.symm

theorem serves_pushAll (h : c.Serves cap script events) (requests : List Message) :
    (c.pushAll requests).Serves cap (script ++ requests) events := by
  induction requests generalizing c script with
  | nil => simpa [pushAll] using h
  | cons m rest ih =>
    obtain ⟨sent, horder⟩ := h
    have hpush : (c.push m).Serves cap (script ++ [m]) events := ⟨sent, inOrder_push horder m⟩
    have hrest := ih hpush
    rwa [List.append_assoc] at hrest

theorem serves_push (h : c.Serves cap script events) (m : Message) :
    (c.push m).Serves cap (script ++ [m]) events :=
  serves_pushAll h [m]

variable {ν : Type} [Network ν]

theorem serves_read (h : c.Serves cap script events) (net : ν) :
    (c.read net).1.Serves cap script (events ++ (c.read net).2.1) := by
  obtain ⟨sent, horder⟩ := h
  by_cases hdown : c.isDisconnected
  · rw [read_of_isDisconnected hdown]
    exact ⟨sent, by simpa using horder⟩
  · rw [read_of_not_isDisconnected hdown]
    exact ⟨sent, inOrder_receive horder _⟩

theorem serves_write (h : c.Serves cap script events) (net : ν) :
    (c.write net).2.1.Serves cap script events := by
  obtain ⟨sent, horder⟩ := h
  rcases write_cases c net with ⟨-, hsame⟩ | ⟨m, hout, hsend⟩
  · rw [hsame]
    exact ⟨sent, horder⟩
  · rw [hsend]
    cases (Network.send c.link m net).1 with
    | accepted => exact ⟨sent ++ [m], inOrder_accepted horder hout⟩
    | wouldBlock => exact ⟨sent, horder⟩
    | failed error => exact ⟨sent, inOrder_disconnect horder⟩

theorem serves_flush (h : c.Serves cap script events) (w : World ν) :
    (c.flush w).1.Serves cap script events := by
  have hcounted : (c.flushCounted w.net).2.1.Serves cap script events :=
    flushCounted_keeps (P := fun c _ => c.Serves cap script events)
      (fun _ net hserves => serves_write hserves net) h
  exact hcounted

end Serves

end Channel

/-! ## Arrays -/

namespace CorrelatorArray

/-- Whether the tree takes every sensor of the plan when it is the turn of the sensor. -/
def SubscribesAll (a : CorrelatorArray) : Prop :=
  ∀ before p after, a.plan.patterns = before ++ p :: after →
    ∀ done path rest, p.targets a.antennas a.plan.enginesPerHost = done ++ path :: rest →
      (((a.subscribeAll before).subscribe done).ensureSensor path).2 = .ok ()

theorem Ready.subscribesAll {a : CorrelatorArray} (h : a.Ready) : a.SubscribesAll := by
  intro before p after _ done path rest htargets
  have hspec : ((a.subscribeAll before).subscribe done).spec = a.spec :=
    (spec_subscribe _ done).trans (a.spec_subscribeAll before)
  have hready : ((a.subscribeAll before).subscribe done).Ready :=
    h.of_quiet ((a.quiet_subscribeAll before).trans (quiet_subscribe _ done)) hspec
  apply hready.ensure
  have hpath : path ∈ p.targets a.antennas a.plan.enginesPerHost := by
    rw [htargets]
    exact List.mem_append_right _ List.mem_cons_self
  unfold CorrelatorArray.antennas
  rw [hspec]
  exact p.within_targets _ _ path hpath

/-- The channels of an array have been given what its activations ask for. -/
structure Asks (cap : UInt32) (controlEvents monitorEvents : List ChannelEvent)
    (a : CorrelatorArray) : Prop where
  control : a.control.Serves cap (controlScript a.activations) controlEvents
  monitor : a.monitor.Serves cap (monitorScript a.plan a.antennas a.activations) monitorEvents

variable {cap : UInt32} {controlEvents monitorEvents : List ChannelEvent} {a : CorrelatorArray}

theorem asks_ofLinks (spec : Announcement) (cmcAddress : String) (plan : Plan) (cap : UInt32)
    (control monitor : Link) : (ofLinks spec cmcAddress plan cap control monitor).Asks cap [] [] :=
  ⟨⟨[], Channel.inOrder_connected .control control controlSeed cap⟩,
    ⟨[], Channel.inOrder_connected .monitor monitor monitorSeed cap⟩⟩

theorem asks_activate (h : a.Asks cap controlEvents monitorEvents) (hready : a.Ready) :
    a.activate.Asks cap controlEvents monitorEvents := by
  rw [activate_eq hready]
  constructor
  · show (a.control.push _).Serves cap (controlScript (a.activations + 1)) controlEvents
    rw [controlScript_succ]
    exact Channel.serves_push h.control _
  · show (a.monitor.pushAll _).Serves cap
      (monitorScript a.plan a.antennas (a.activations + 1)) monitorEvents
    rw [monitorScript_succ, Plan.fanOut_eq]
    exact Channel.serves_pushAll h.monitor _

theorem activations_activate (hready : a.Ready) : a.activate.activations = a.activations + 1 := by
  rw [activate_eq hready]

/-- The report about the instrument that an array remembers. -/
def remembered (a : CorrelatorArray) : String × String := (a.instrumentState, a.configFile)

theorem remembered_activate (hready : a.Ready) : a.activate.remembered = a.remembered := by
  rw [activate_eq hready]
  rfl

/-- A report about the instrument is remembered. It activates the array if it is new and says that
the instrument is nominal. -/
theorem setInstrumentState_spec (h : a.Asks cap controlEvents monitorEvents) (hready : a.Ready)
    (state configFile : String) :
    let a' := a.setInstrumentState state configFile
    a'.Asks cap controlEvents monitorEvents ∧ a'.remembered = (state, configFile) ∧
      a'.activations = a.activations +
        if (state, configFile) ≠ a.remembered ∧ state = "nominal" then 1 else 0 := by
  intro a'
  have hsame : (state, configFile) = a.remembered ↔
      state = a.instrumentState ∧ configFile = a.configFile := by
    unfold remembered
    exact Prod.mk.injEq .. ▸ Iff.rfl
  have htold : (a.told state configFile).Asks cap controlEvents monitorEvents :=
    ⟨h.control, h.monitor⟩
  rcases a.setInstrumentState_cases state configFile with
    ⟨hold, hset⟩ | ⟨hold, ⟨hnominal, hset⟩ | ⟨hnominal, hset⟩⟩
  · have ha' : a' = a := hset
    rw [ha', if_neg fun hnew => hnew.1 (hsame.2 hold)]
    exact ⟨h, (hsame.2 hold).symm, rfl⟩
  · have ha' : a' = (a.told state configFile).activate := hset
    have hready' := hready.told state configFile
    rw [ha', if_pos ⟨fun heq => hold (hsame.1 heq), hnominal⟩]
    exact ⟨asks_activate htold hready', remembered_activate hready', activations_activate hready'⟩
  · have ha' : a' = a.told state configFile := hset
    rw [ha', if_neg fun hboth => hnominal hboth.2]
    exact ⟨htold, rfl, rfl⟩

end CorrelatorArray

/-! ## Runs -/

def ArrayAct.isActivate {ν : Type} : ArrayAct ν → Bool
  | activate => true
  | _ => false

namespace ArrayMoment

variable {ν : Type}

/-- The requests that the control channel was ever given. -/
def controlAsked (m : ArrayMoment ν) : List Message :=
  m.array.control.asked (m.controlDone ++ m.controlTodo)

/-- The requests that the monitor channel was ever given. -/
def monitorAsked (m : ArrayMoment ν) : List Message :=
  m.array.monitor.asked (m.monitorDone ++ m.monitorTodo)

/-- What was reported about the instrument so far. -/
def instrumentReports (m : ArrayMoment ν) : List (String × String) :=
  m.controlDone.filterMap ChannelEvent.instrument?

/-- The requests and the activations of an array are what its reports and so many calls make
them. -/
structure Scripted (cap : UInt32) (calls : Nat) (m : ArrayMoment ν) : Prop where
  ready : m.array.Ready
  -- A reply settles a request when it is taken, not when it is acted on.
  asks : m.array.Asks cap (m.controlDone ++ m.controlTodo) (m.monitorDone ++ m.monitorTodo)
  remembered : m.array.remembered = m.instrumentReports.getLast?.getD ("", "")
  activations : m.array.activations = calls + nominalChanges ("", "") m.instrumentReports

variable {cap : UInt32} {calls : Nat} {m : ArrayMoment ν}

theorem scripted_control {event : ChannelEvent} {todo : List ChannelEvent}
    (h : m.Scripted cap calls) (htodo : m.controlTodo = event :: todo)
    (hready : (m.control event todo).array.Ready) : (m.control event todo).Scripted cap calls := by
  have hevents : m.controlDone ++ [event] ++ todo = m.controlDone ++ m.controlTodo := by
    rw [htodo, List.append_assoc]
    rfl
  have hreports : (m.control event todo).instrumentReports =
      m.instrumentReports ++ [event].filterMap ChannelEvent.instrument? :=
    List.filterMap_append
  have hasks : m.array.Asks cap (m.controlDone ++ [event] ++ todo)
      (m.monitorDone ++ m.monitorTodo) := by
    rw [hevents]
    exact h.asks
  rcases m.array.controlEvent_cases m.world.metrics event with
    ⟨state, configFile, hreport, hevent⟩ | ⟨hreport, tree, -, hevent⟩
  · obtain ⟨hasks', hremembered, hactivations⟩ :=
      CorrelatorArray.setInstrumentState_spec hasks h.ready state configFile
    have hnew : (m.control event todo).instrumentReports =
        m.instrumentReports ++ [(state, configFile)] := by
      rw [hreports]
      simp [hreport]
    have harray : (m.control event todo).array = m.array.setInstrumentState state configFile :=
      hevent
    refine ⟨hready, ?_, ?_, ?_⟩
    · rw [harray]
      exact hasks'
    · rw [harray, hnew, List.getLast?_concat]
      exact hremembered
    · rw [harray, hnew, nominalChanges_concat, hactivations, h.activations, h.remembered,
        Nat.add_assoc]
  · have hnew : (m.control event todo).instrumentReports = m.instrumentReports := by
      rw [hreports]
      simp [hreport]
    have harray : (m.control event todo).array = { m.array with tree } := hevent
    refine ⟨hready, ?_, ?_, ?_⟩
    · rw [harray]
      exact ⟨hasks.control, hasks.monitor⟩
    · rw [harray, hnew]
      exact h.remembered
    · rw [harray, hnew]
      exact h.activations

theorem scripted_monitor {now : Timestamp} {event : ChannelEvent} {todo : List ChannelEvent}
    (h : m.Scripted cap calls) (htodo : m.monitorTodo = event :: todo)
    (hready : (m.monitor now event todo).array.Ready) :
    (m.monitor now event todo).Scripted cap calls := by
  have hevents : m.monitorDone ++ [event] ++ todo = m.monitorDone ++ m.monitorTodo := by
    rw [htodo, List.append_assoc]
    rfl
  have hasks : m.array.Asks cap (m.controlDone ++ m.controlTodo)
      (m.monitorDone ++ [event] ++ todo) := by
    rw [hevents]
    exact h.asks
  obtain ⟨tree, updatedAt, harray⟩ : ∃ tree updatedAt,
      (m.monitor now event todo).array = { m.array with tree, updatedAt } := by
    rcases m.array.monitorEvent_cases now m.world.metrics event with
      ⟨r, tree, -, -, hevent⟩ | ⟨-, tree, -, -, hevent⟩
    · exact ⟨tree, some r.time, hevent⟩
    · exact ⟨tree, m.array.updatedAt, hevent⟩
  refine ⟨hready, ?_, ?_, ?_⟩
  · rw [harray]
    exact ⟨hasks.control, hasks.monitor⟩
  · rw [harray]
    exact h.remembered
  · rw [harray]
    exact h.activations

variable [Network ν]

theorem scripted_step (h : m.Scripted cap calls)
    (act : ArrayAct ν) :
    (m.step act).Scripted cap (calls + if act.isActivate then 1 else 0) := by
  have hready := ready_step h.ready act
  cases act with
  | activate =>
    refine ⟨hready, CorrelatorArray.asks_activate h.asks h.ready, ?_, ?_⟩
    · exact (CorrelatorArray.remembered_activate h.ready).trans h.remembered
    · have hcount : m.array.activate.activations = m.array.activations + 1 :=
        CorrelatorArray.activations_activate h.ready
      have hbefore := h.activations
      show m.array.activate.activations = calls + 1 + nominalChanges ("", "") m.instrumentReports
      omega
  | add path =>
    exact ⟨hready, ⟨h.asks.control, h.asks.monitor⟩, h.remembered, h.activations⟩
  | mark liveness =>
    exact ⟨hready, ⟨h.asks.control, h.asks.monitor⟩, h.remembered, h.activations⟩
  | takeControl =>
    refine ⟨hready, ⟨?_, h.asks.monitor⟩, h.remembered, h.activations⟩
    have hread := Channel.serves_read h.asks.control m.world.net
    rwa [List.append_assoc] at hread
  | takeMonitor =>
    refine ⟨hready, ⟨h.asks.control, ?_⟩, h.remembered, h.activations⟩
    have hread := Channel.serves_read h.asks.monitor m.world.net
    rwa [List.append_assoc] at hread
  | control =>
    rcases m.step_control_cases with ⟨-, hstep⟩ | ⟨event, todo, htodo, hstep⟩
    · rw [hstep]
      exact h
    · rw [hstep] at hready ⊢
      exact scripted_control h htodo hready
  | monitor now =>
    rcases m.step_monitor_cases now with ⟨-, hstep⟩ | ⟨event, todo, htodo, hstep⟩
    · rw [hstep]
      exact h
    · rw [hstep] at hready ⊢
      exact scripted_monitor h htodo hready
  | flush =>
    refine ⟨hready, ⟨?_, ?_⟩, h.remembered, h.activations⟩
    · exact Channel.serves_flush h.asks.control m.world
    · exact Channel.serves_flush h.asks.monitor (m.array.control.flush m.world).2
  | remote move => exact ⟨hready, h.asks, h.remembered, h.activations⟩

theorem scripted_run (h : m.Scripted cap calls)
    (acts : List (ArrayAct ν)) :
    (m.run acts).Scripted cap (calls + acts.countP ArrayAct.isActivate) := by
  induction acts generalizing m calls with
  | nil => exact h
  | cons act rest ih =>
    have hrest := ih (scripted_step h act)
    rw [List.countP_cons, Nat.add_comm (rest.countP _), ← Nat.add_assoc]
    exact hrest

/-! ### Runs from the start -/

section Start

variable (spec : Announcement) (cmcAddress : String) (plan : Plan) (maxRetries : UInt32)
  (control monitor : Link) (world : World ν) (acts : List (ArrayAct ν))

theorem scripted_of_start :
    ((start spec cmcAddress plan maxRetries control monitor world).run acts).Scripted maxRetries
      (acts.countP ArrayAct.isActivate) := by
  have hstart : (start spec cmcAddress plan maxRetries control monitor world).Scripted
      maxRetries 0 :=
    ⟨CorrelatorArray.ready_ofLinks .., CorrelatorArray.asks_ofLinks .., rfl, rfl⟩
  have hrun := scripted_run hstart acts
  rwa [Nat.zero_add] at hrun

theorem monitorAsked_of_start :
    let m := (start spec cmcAddress plan maxRetries control monitor world).run acts
    m.monitorAsked = monitorScript plan spec.antennas m.array.activations := by
  intro m
  obtain ⟨hspec, hplan⟩ : m.array.spec = spec ∧ m.array.plan = plan :=
    settings_run (start spec cmcAddress plan maxRetries control monitor world) acts
  have hscripted : m.Scripted maxRetries (acts.countP ArrayAct.isActivate) :=
    scripted_of_start spec cmcAddress plan maxRetries control monitor world acts
  have hmonitor := hscripted.asks.monitor.asked_eq
  rwa [CorrelatorArray.antennas, hspec, hplan] at hmonitor

end Start

/-- Whatever happens to an array: its channels were given these requests, in this order, and no
others. It was activated by every call that activates it, and by every report that its instrument
is nominal, unless the report before said the same. Whenever it is activated, its tree takes every
sensor of the plan. -/
theorem request_script (spec : Announcement) (cmcAddress : String) (plan : Plan)
    (maxRetries : UInt32) (control monitor : Link) (world : World ν) (acts : List (ArrayAct ν)) :
    let m := (start spec cmcAddress plan maxRetries control monitor world).run acts
    m.controlAsked = controlScript m.array.activations ∧
      m.monitorAsked = monitorScript plan spec.antennas m.array.activations ∧
      m.array.activations =
        acts.countP ArrayAct.isActivate + nominalChanges ("", "") m.instrumentReports ∧
      ∀ instrumentState configFile activations,
        { m.array with instrumentState, configFile, activations }.SubscribesAll := by
  intro m
  have hscripted : m.Scripted maxRetries (acts.countP ArrayAct.isActivate) :=
    scripted_of_start spec cmcAddress plan maxRetries control monitor world acts
  refine ⟨hscripted.asks.control.asked_eq, monitorAsked_of_start .., hscripted.activations, ?_⟩
  intro instrumentState configFile activations
  apply CorrelatorArray.Ready.subscribesAll
  exact ⟨hscripted.ready.sound, hscripted.ready.antennas⟩

end ArrayMoment

end ArrayWatch
