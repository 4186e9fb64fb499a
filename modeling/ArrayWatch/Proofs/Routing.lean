import ArrayWatch.Link.Scripted
import ArrayWatch.Proofs.NameGrammar
import ArrayWatch.Proofs.RequestScript

/-!
# What is subscribed can be routed

An array asks for sensors by names that it writes itself, and what comes back is found by reading
these names. The two agree: every name that was asked for leads to a sensor that was made when it
was asked for, and no two names lead to the same one. Only the mapping of the hosts has no sensor,
since it is no reading.

* `CorrelatorArray.Subscribed`: the sensors of an array that was activated are there.
* `ArrayMoment.subscribed_routed`: what comes for a name that was asked for.
-/

namespace ArrayWatch

/-! ## Sensors that were made sure of -/

namespace SensorTree

variable {t : SensorTree}

theorem isSome_ensure (h : t.Sound) {path : SensorPath} (hpath : path.Within t.antennas) :
    ((t.ensure path).1.sensor? path).isSome := by
  rcases t.ensure_cases path with ⟨-, halter⟩ | ⟨⟨e, herror⟩, -⟩
  · rw [halter path, if_pos rfl]
    rfl
  · rw [(ensure_eq_ok_iff h path).2 hpath] at herror
    contradiction

theorem quiet_ensureAll (t : SensorTree) (paths : List SensorPath) :
    t.Quiet (t.ensureAll paths) := by
  induction paths generalizing t with
  | nil => exact .refl t
  | cons path rest ih =>
    have hfirst : t.Quiet (t.ensure path).1 := .single (.ensure t path)
    exact hfirst.trans (ih _)

theorem isSome_ensureAll (h : t.Sound) {paths : List SensorPath}
    (hpaths : ∀ path ∈ paths, path.Within t.antennas) :
    ∀ path ∈ paths, ((t.ensureAll paths).sensor? path).isSome := by
  induction paths generalizing t with
  | nil => nofun
  | cons first rest ih =>
    have hstep : QuietStep t (t.ensure first).1 := .ensure t first
    have hrest : ∀ path ∈ rest, path.Within (t.ensure first).1.antennas := by
      intro path hpath
      rw [hstep.antennas]
      exact hpaths path (List.mem_cons_of_mem _ hpath)
    intro path hpath
    rcases List.mem_cons.1 hpath with rfl | hpath
    · have hfirst := isSome_ensure h (hpaths path List.mem_cons_self)
      exact (quiet_ensureAll _ rest).isSome_sensor? hfirst
    · exact ih (hstep.sound h) hrest path hpath

end SensorTree

/-! ## Arrays -/

namespace CorrelatorArray

/-- The places of the sensors that an activation makes sure of. -/
def subscribed (a : CorrelatorArray) : List SensorPath :=
  a.plan.targets a.antennas ++ [.array deviceStatus]

/-- If the array was ever activated, its sensors are there. -/
def Subscribed (a : CorrelatorArray) : Prop :=
  0 < a.activations → ∀ path ∈ a.subscribed, (a.tree.sensor? path).isSome

variable {a : CorrelatorArray}

/-- Sensors do not vanish from a tree in which they are found. -/
theorem Subscribed.of_tree (h : a.Subscribed) {tree : SensorTree} (updatedAt : Option Timestamp)
    (hkeeps : ∀ path, (a.tree.sensor? path).isSome → (tree.sensor? path).isSome) :
    { a with tree, updatedAt }.Subscribed := by
  intro hactive path hpath
  exact hkeeps path (h hactive path hpath)

theorem within_subscribed (a : CorrelatorArray) :
    ∀ path ∈ a.subscribed, path.Within a.antennas := by
  intro path hpath
  rcases List.mem_append.1 hpath with hpath | hpath
  · obtain ⟨p, -, hpath⟩ := List.mem_flatMap.1 hpath
    exact p.within_targets a.antennas a.plan.enginesPerHost path hpath
  · obtain rfl := List.mem_singleton.1 hpath
    trivial

theorem subscribed_activate (h : a.Ready) : a.activate.Subscribed := by
  intro _ path hpath
  have htree : a.activate.tree = a.tree.ensureAll a.subscribed := by
    rw [activate_eq h]
    rfl
  have hsame : a.activate.subscribed = a.subscribed := by
    rw [activate_eq h]
    rfl
  rw [hsame] at hpath
  rw [htree]
  apply SensorTree.isSome_ensureAll h.sound _ path hpath
  rw [h.antennas]
  exact a.within_subscribed

theorem subscribed_controlEvent (hready : a.Ready) (h : a.Subscribed) (metrics : Metrics)
    (event : ChannelEvent) : (a.controlEvent metrics event).1.Subscribed := by
  rcases a.controlEvent_cases metrics event with
    ⟨state, configFile, -, hevent⟩ | ⟨-, tree, hquiet, hevent⟩
  · rw [hevent]
    rcases a.setInstrumentState_cases state configFile with
      ⟨-, hset⟩ | ⟨-, ⟨-, hset⟩ | ⟨-, hset⟩⟩
    · rw [hset]
      exact h
    · rw [hset]
      exact subscribed_activate (hready.told state configFile)
    · rw [hset]
      exact h
  · rw [hevent]
    exact h.of_tree a.updatedAt fun path => hquiet.isSome_sensor?

theorem subscribed_monitorEvent (h : a.Subscribed) (now : Timestamp) (metrics : Metrics)
    (event : ChannelEvent) : (a.monitorEvent now metrics event).1.Subscribed := by
  rcases a.monitorEvent_cases now metrics event with
    ⟨r, tree, -, hupdate, hevent⟩ | ⟨-, tree, hquiet, -, hevent⟩
  · rw [hevent]
    apply h.of_tree
    intro path hpath
    rwa [SensorTree.isSome_sensor?_update hupdate]
  · rw [hevent]
    exact h.of_tree a.updatedAt fun path => hquiet.isSome_sensor?

/-- A reading for a sensor that is there reaches it, and nothing is wrong with the inform. -/
theorem monitorEvent_of_sensor {path : SensorPath} (hproper : path.Proper)
    (hthere : (a.tree.sensor? path).isSome) (hname : path.text ≠ hostMappingSensor)
    (stamp count status value : String) (now : Timestamp) (metrics : Metrics) :
    ∃ tree, a.tree.update path value status now = .ok tree ∧
      a.monitorEvent now metrics
          (.inform ⟨.inform, ["sensor-status", stamp, count, path.text, status, value]⟩) =
        ({ a with tree, updatedAt := some now }, metrics.informReceived "sensor-status") := by
  obtain ⟨tree, htree⟩ := SensorTree.exists_ok_update.2 hthere
  let r : SensorReport := ⟨path.text, status, value, 0⟩
  have hset : a.setReading r now = ({ a with tree, updatedAt := some now }, 0) := by
    have hbyName : a.tree.updateByName path.text value status now = .ok tree := by
      unfold SensorTree.updateByName
      rw [SensorPath.parse_text hproper]
      exact htree
    unfold setReading
    rw [hbyName]
  have hevent : a.monitorEvent now metrics
      (.inform ⟨.inform, ["sensor-status", stamp, count, path.text, status, value]⟩) =
        a.monitorReport SensorReport.updateName r now
          (metrics.informReceived "sensor-status") := rfl
  refine ⟨tree, htree, ?_⟩
  rw [hevent, monitorReport, if_neg hname, if_pos rfl, hset]
  rfl

/-- Such a reading is stored in the sensor, and the other sensors stay as they are. -/
theorem entries_monitorEvent (hready : a.Ready) {path : SensorPath} (hproper : path.Proper)
    {s : Sensor} (hs : a.tree.sensor? path = some s) (hname : path.text ≠ hostMappingSensor)
    (stamp count status value : String) (now : Timestamp) (metrics : Metrics) :
    let informed := a.monitorEvent now metrics
      (.inform ⟨.inform, ["sensor-status", stamp, count, path.text, status, value]⟩)
    (∃ s', (path, s') ∈ informed.1.tree.entries ∧ s'.name = s.name ∧ s'.value = value ∧
        s'.status = status ∧ s'.updatedAt = some now) ∧
      (∀ entry ∈ a.tree.entries, entry.1 ≠ path → entry ∈ informed.1.tree.entries) ∧
      informed.1.updatedAt = some now ∧ informed.2 = metrics.informReceived "sensor-status" := by
  intro informed
  have hthere : (a.tree.sensor? path).isSome := by
    rw [hs]
    rfl
  obtain ⟨tree, hupdate, hevent⟩ := monitorEvent_of_sensor hproper hthere hname stamp count status
    value now metrics
  have hinformed : informed =
      ({ a with tree, updatedAt := some now }, metrics.informReceived "sensor-status") :=
    hevent
  have hsound := SensorTree.sound_update hready.sound hupdate
  have halter := SensorTree.altersAt_update hupdate
  rw [hinformed]
  refine ⟨⟨s.update value status now, ?_, rfl, rfl, rfl, rfl⟩, ?_, rfl, rfl⟩
  · rw [SensorTree.mem_entries_iff hsound, halter path, if_pos rfl, hs]
    rfl
  · intro (other, s') hentry hne
    rw [SensorTree.mem_entries_iff hsound, halter other, if_neg hne]
    exact (SensorTree.mem_entries_iff hready.sound).1 hentry

end CorrelatorArray

/-! ## Runs -/

/-- What was ever asked for on a monitor channel: the sensors of the plan, the status of the array
and the mapping of the hosts, and nothing before the first activation. -/
theorem of_mem_monitorScript {plan : Plan} {antennas activations : Nat} {name : String}
    (h : ⟨.request, ["sensor-sampling", name, "auto"]⟩ ∈
      monitorScript plan antennas activations) :
    0 < activations ∧ ((∃ path ∈ plan.targets antennas ++ [.array deviceStatus],
      path.text = name) ∨ name = CorrelatorArray.hostMappingSensor) := by
  have hwords : ∀ sensor, Message.mk .request ["sensor-sampling", name, "auto"] =
      .sensorSampling sensor → name = sensor := by
    rintro sensor ⟨⟩
    rfl
  unfold monitorScript at h
  rcases List.mem_cons.1 h with h | h
  · simp at h
  · obtain ⟨requests, hrequests, hmem⟩ := List.mem_flatten.1 h
    obtain ⟨hactive, rfl⟩ := List.mem_replicate.1 hrequests
    refine ⟨Nat.pos_of_ne_zero hactive, ?_⟩
    rw [Plan.fanOut_eq] at hmem
    rcases List.mem_append.1 hmem with hmem | hmem
    · obtain ⟨path, hpath, hname⟩ := List.mem_map.1 hmem
      exact .inl ⟨path, List.mem_append_left _ hpath, (hwords _ hname.symm).symm⟩
    · rcases List.mem_cons.1 hmem with hstatus | hmapping
      · obtain rfl := hwords _ hstatus
        exact .inl ⟨.array deviceStatus, List.mem_append_right _ List.mem_cons_self, rfl⟩
      · exact .inr (hwords _ (List.mem_singleton.1 hmapping))

theorem Plan.Built.proper_targets {plan : Plan} (h : plan.Built) {antennas : Nat}
    (hantennas : antennas ≤ Decimal.word64) :
    ∀ path ∈ plan.targets antennas ++ [.array deviceStatus], path.Proper := by
  intro path hpath
  rcases List.mem_append.1 hpath with hpath | hpath
  · obtain ⟨p, hp, hpath⟩ := List.mem_flatMap.1 hpath
    exact Pattern.proper_targets (h.proper p hp) hantennas plan.enginesPerHost path hpath
  · obtain rfl := List.mem_singleton.1 hpath
    have hstatus : IsSegment deviceStatus := by decide
    exact hstatus

namespace ArrayMoment

variable {ν : Type} [Network ν]

theorem subscribed_step {m : ArrayMoment ν} (hready : m.array.Ready) (h : m.array.Subscribed)
    (act : ArrayAct ν) : (m.step act).array.Subscribed := by
  cases act with
  | activate => exact CorrelatorArray.subscribed_activate hready
  | add path =>
    have hquiet := m.array.quiet_ensureSensor path
    exact h.of_tree m.array.updatedAt fun other => hquiet.isSome_sensor?
  | mark liveness => exact h
  | takeControl => exact h
  | takeMonitor => exact h
  | control =>
    rcases m.step_control_cases with ⟨-, hstep⟩ | ⟨event, todo, -, hstep⟩
    · rw [hstep]
      exact h
    · rw [hstep]
      exact CorrelatorArray.subscribed_controlEvent hready h _ _
  | monitor now =>
    rcases m.step_monitor_cases now with ⟨-, hstep⟩ | ⟨event, todo, -, hstep⟩
    · rw [hstep]
      exact h
    · rw [hstep]
      exact CorrelatorArray.subscribed_monitorEvent h now _ _
  | flush => exact h
  | remote move => exact h

/-- A name that was asked for is the name of a place that can be read back and has a sensor. -/
theorem exists_place_of_asked {plan : Plan} (hplan : plan.Built) {spec : Announcement}
    (hantennas : spec.antennas ≤ Decimal.word64) (cmcAddress : String) (maxRetries : UInt32)
    (control monitor : Link) (world : World ν) (acts : List (ArrayAct ν)) :
    let m := (start spec cmcAddress plan maxRetries control monitor world).run acts
    m.array.Ready ∧ ∀ name, ⟨.request, ["sensor-sampling", name, "auto"]⟩ ∈ m.monitorAsked →
      name ≠ "hostname-functional-mapping" →
      ∃ path s, path.Proper ∧ path.text = name ∧ m.array.tree.sensor? path = some s := by
  intro m
  obtain ⟨hready, hthere⟩ : m.array.Ready ∧ m.array.Subscribed := by
    apply run_keeps (P := fun m => m.array.Ready ∧ m.array.Subscribed)
    · intro m act h
      exact ⟨ready_step h.1 act, subscribed_step h.1 h.2 act⟩
    · exact ⟨CorrelatorArray.ready_ofLinks .., nofun⟩
  have hasked : m.monitorAsked = monitorScript plan spec.antennas m.array.activations :=
    monitorAsked_of_start spec cmcAddress plan maxRetries control monitor world acts
  obtain ⟨hspec, hsame⟩ : m.array.spec = spec ∧ m.array.plan = plan :=
    settings_run (start spec cmcAddress plan maxRetries control monitor world) acts
  refine ⟨hready, ?_⟩
  intro name hname hmapping
  rw [hasked] at hname
  obtain ⟨hactive, ⟨path, hpath, htext⟩ | hother⟩ := of_mem_monitorScript hname
  · have hsubscribed : path ∈ m.array.subscribed := by
      unfold CorrelatorArray.subscribed CorrelatorArray.antennas
      rwa [hspec, hsame]
    obtain ⟨s, hs⟩ := Option.isSome_iff_exists.1 (hthere hactive path hsubscribed)
    exact ⟨path, s, hplan.proper_targets hantennas path hpath, htext, hs⟩
  · exact absurd hother hmapping

/-- Whatever plan was built, however often and whenever it was subscribed to: a reading for a name
that was asked for reaches the sensor of that name and no other one, the array was updated then, and
nothing is counted as malformed. Two names lead to two sensors. The antennas of an array are counted
in a word of 64 bits, like the number in the name of a host. -/
theorem subscribed_routed {plan : Plan} (hplan : plan.Built) {spec : Announcement}
    (hantennas : spec.antennas ≤ Decimal.word64) (cmcAddress : String) (maxRetries : UInt32)
    (control monitor : Link) (world : World ν) (acts : List (ArrayAct ν)) :
    let m := (start spec cmcAddress plan maxRetries control monitor world).run acts
    ∀ name, ⟨.request, ["sensor-sampling", name, "auto"]⟩ ∈ m.monitorAsked →
      name ≠ "hostname-functional-mapping" →
      ∃ path s, SensorPath.parse name = .ok path ∧ (path, s) ∈ m.array.tree.entries ∧
        (∀ stamp count status value now metrics,
          let informed := m.array.monitorEvent now metrics
            (.inform ⟨.inform, ["sensor-status", stamp, count, name, status, value]⟩)
          (∃ s', (path, s') ∈ informed.1.tree.entries ∧ s'.name = s.name ∧ s'.value = value ∧
              s'.status = status ∧ s'.updatedAt = some now) ∧
            (∀ entry ∈ m.array.tree.entries, entry.1 ≠ path → entry ∈ informed.1.tree.entries) ∧
            informed.1.updatedAt = some now ∧
            informed.2 = { metrics with informs := metrics.informs.add ["sensor-status"] 1 }) ∧
        ∀ other, ⟨.request, ["sensor-sampling", other, "auto"]⟩ ∈ m.monitorAsked →
          other ≠ "hostname-functional-mapping" → other ≠ name →
          ∃ path', SensorPath.parse other = .ok path' ∧ path' ≠ path := by
  intro m
  obtain ⟨hready, hplace⟩ := exists_place_of_asked hplan hantennas cmcAddress maxRetries control
    monitor world acts
  intro name hname hmapping
  obtain ⟨path, s, hproper, rfl, hs⟩ := hplace name hname hmapping
  have hentry : (path, s) ∈ m.array.tree.entries := (SensorTree.mem_entries_iff hready.sound).2 hs
  refine ⟨path, s, SensorPath.parse_text hproper, hentry, ?_, ?_⟩
  · intro stamp count status value now metrics
    exact CorrelatorArray.entries_monitorEvent hready hproper hs hmapping stamp count status value
      now metrics
  · intro other hother hmapping' hne
    obtain ⟨path', -, hproper', rfl, -⟩ := hplace other hother hmapping'
    refine ⟨path', SensorPath.parse_text hproper', ?_⟩
    rintro rfl
    exact hne rfl

/-! ### A team that only the plan knows -/

/-- A plan from a file, and from further texts the second of which is no pattern. -/
def yardPlan : Plan :=
  (Plan.extend ⟨[.array "device-status", .engineDevice 'x' "xeng" "vacc"], 2⟩
    ["yard.net", "f..dig", "f.dig"]).1

theorem built_yardPlan : yardPlan.Built := by
  apply Plan.Built.extend
  apply Plan.Built.parse
  · show Plan.parse "device-status # of the array\n\n x.xeng.vacc" 2 = _
    rfl

/-- The instrument of an array with three antennas becomes nominal. -/
def yardActivated : ArrayMoment ScriptedNetwork :=
  (start ⟨"yard", 7148, 7149, 3⟩ "cmc" yardPlan 0 ⟨0, "cmc:7148"⟩ ⟨1, "cmc:7149"⟩
    ⟨⟨[.new "cmc:7148" none, .new "cmc:7149" none]⟩, .zero⟩).run
      [.remote fun net => net.modify 0 fun link => link.happen (.line
          ⟨.inform, ["sensor-status", "1", "1", "instrument-state", "nominal", "bc8n856M4k"]⟩),
        .takeControl, .control]

/-- The network of the third host has a sensor, and a warning for it is stored there. -/
theorem subscribed_routed_yard :
    let name := "yhost02.net.device-status"
    let informed := yardActivated.array.monitorEvent ⟨7⟩ .zero
      (.inform ⟨.inform, ["sensor-status", "1", "1", name, "warn", "slow"]⟩)
    ⟨.request, ["sensor-sampling", name, "auto"]⟩ ∈ yardActivated.monitorAsked ∧
      ∃ path s s', SensorPath.parse name = .ok path ∧
        (path, s) ∈ yardActivated.array.tree.entries ∧ (path, s') ∈ informed.1.tree.entries ∧
        s'.value = "slow" ∧ s'.status = "warn" ∧ s'.updatedAt = some ⟨7⟩ := by
  intro name informed
  have hasked : ⟨.request, ["sensor-sampling", name, "auto"]⟩ ∈ yardActivated.monitorAsked := by
    decide +kernel
  obtain ⟨path, s, hparse, hentry, hstored, -⟩ := subscribed_routed built_yardPlan (by decide)
    "cmc" 0 ⟨0, "cmc:7148"⟩ ⟨1, "cmc:7149"⟩ _ _ name hasked (by decide)
  obtain ⟨⟨s', hentry', -, hvalue, hstatus, htime⟩, -⟩ := hstored "1" "1" "warn" "slow" ⟨7⟩ .zero
  exact ⟨hasked, path, s, s', hparse, hentry, hentry', hvalue, hstatus, htime⟩

end ArrayMoment

end ArrayWatch
