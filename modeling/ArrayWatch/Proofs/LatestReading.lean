import ArrayWatch.Proofs.ArrayRun

/-!
# The latest readings

Every sensor of an array has the value and the status that came for it last, and a sensor for which
nothing came yet says so. A reading comes with an inform on the monitor channel that names a sensor
of the tree; nothing else changes what a sensor says, and nothing that comes on the monitor channel
makes a sensor.

* `SensorTree.Latest`: the sensors of a tree have these readings.
* `ArrayMoment.latest_reading`: they have the readings of the run, at every moment of it.
-/

namespace ArrayWatch

/-- The sensor at a place after its last reading. -/
def Sensor.reported (path : SensorPath) : Option Reading → Sensor
  | none => ⟨path.sensor, "", "unknown", none⟩
  | some r => ⟨path.sensor, r.value, r.status, some r.time⟩

/-- The last of some readings for a place. -/
def lastReading? (readings : List Reading) (path : SensorPath) : Option Reading :=
  (readings.filter (·.path = path)).getLast?

theorem lastReading?_concat (readings : List Reading) (r : Reading) (path : SensorPath) :
    lastReading? (readings ++ [r]) path =
      if path = r.path then some r else lastReading? readings path := by
  unfold lastReading?
  rw [List.filter_append]
  by_cases hpath : path = r.path
  · subst hpath
    simp
  · simp [hpath, Ne.symm hpath]

theorem lastReading?_eq_none_of {readings : List Reading} {path : SensorPath}
    (h : ∀ r ∈ readings, r.path ≠ path) : lastReading? readings path = none := by
  unfold lastReading?
  rw [List.getLast?_eq_none_iff, List.filter_eq_nil_iff]
  intro r hr
  simpa using h r hr

namespace SensorTree

/-- Every sensor of the tree has the last of these readings for its place, and every reading was for
a sensor of the tree. -/
structure Latest (t : SensorTree) (readings : List Reading) : Prop where
  reported : ∀ path s, t.sensor? path = some s →
    s = .reported path (lastReading? readings path)
  found : ∀ r ∈ readings, (t.sensor? r.path).isSome

variable {t t' : SensorTree} {readings : List Reading}

/-- A sensor that is new has no reading yet, since a reading is for a sensor that is there. -/
theorem Latest.quiet (h : t.Latest readings) (hquiet : t.Quiet t') : t'.Latest readings := by
  constructor
  · intro path s hs
    rcases hquiet.sensor? path with hsame | ⟨hnone, hfresh⟩
    · exact h.reported path s (hsame ▸ hs)
    · have hnever : lastReading? readings path = none := by
        apply lastReading?_eq_none_of
        intro r hr hpath
        have hfound := h.found r hr
        rw [hpath, hnone] at hfound
        contradiction
      rw [hfresh] at hs
      rw [hnever]
      exact (Option.some.inj hs).symm
  · intro r hr
    exact hquiet.isSome_sensor? (h.found r hr)

/-- The sensor that a reading is for takes it, and the others keep what they have. -/
theorem Latest.update (h : t.Latest readings) {r : Reading}
    (hupdate : t.update r.path r.value r.status r.time = .ok t') :
    t'.Latest (readings ++ [r]) := by
  have halter := altersAt_update hupdate
  constructor
  · intro path s hs
    rw [halter path] at hs
    rw [lastReading?_concat]
    split at hs
    · rename_i hpath
      obtain ⟨old, hold, rfl⟩ := Option.map_eq_some_iff.1 hs
      have hname : old.name = path.sensor := by
        rw [h.reported path old hold]
        cases lastReading? readings path <;> rfl
      rw [if_pos hpath]
      simp [Sensor.update, Sensor.reported, hname]
    · rename_i hpath
      rw [if_neg hpath]
      exact h.reported path s hs
  · intro other hother
    rw [isSome_sensor?_update hupdate]
    rcases List.mem_append.1 hother with hbefore | hnew
    · exact h.found other hbefore
    · obtain rfl := List.mem_singleton.1 hnew
      exact exists_ok_update.1 ⟨t', hupdate⟩

end SensorTree

/-! ## Arrays -/

namespace CorrelatorArray

variable {a : CorrelatorArray}

theorem updatedAt_activate (h : a.Ready) : a.activate.updatedAt = a.updatedAt := by
  rw [activate_eq h]

theorem updatedAt_controlEvent (h : a.Ready) (metrics : Metrics) (event : ChannelEvent) :
    (a.controlEvent metrics event).1.updatedAt = a.updatedAt := by
  rcases a.controlEvent_cases metrics event with
    ⟨state, configFile, -, hevent⟩ | ⟨-, tree, -, hevent⟩
  · rw [hevent]
    rcases a.setInstrumentState_cases state configFile with
      ⟨-, hset⟩ | ⟨-, ⟨-, hset⟩ | ⟨-, hset⟩⟩
    · rw [hset]
    · rw [hset]
      exact updatedAt_activate (h.told state configFile)
    · rw [hset]
      rfl
  · rw [hevent]

end CorrelatorArray

/-! ## Runs -/

namespace ArrayMoment

variable {ν : Type}

/-- The array has the readings that came so far. -/
structure Reported (m : ArrayMoment ν) : Prop where
  latest : m.array.tree.Latest m.readings
  updatedAt : m.array.updatedAt = m.readings.getLast?.map (·.time)

theorem Reported.quiet {m : ArrayMoment ν} (h : m.Reported) {a : CorrelatorArray}
    (hquiet : m.array.tree.Quiet a.tree) (hupdatedAt : a.updatedAt = m.array.updatedAt) :
    { m with array := a }.Reported :=
  ⟨h.latest.quiet hquiet, hupdatedAt.trans h.updatedAt⟩

theorem start_reported (spec : Announcement) (cmcAddress : String) (plan : Plan)
    (maxRetries : UInt32) (control monitor : Link) (world : World ν) :
    (start spec cmcAddress plan maxRetries control monitor world).Reported := by
  refine ⟨⟨?_, nofun⟩, rfl⟩
  intro path s hs
  have hnone : (start spec cmcAddress plan maxRetries control monitor world).array.tree.sensor?
      path = none := SensorTree.sensor?_empty spec.name spec.antennas path
  rw [hnone] at hs
  contradiction

/-- What one event on the monitor channel brings is added to what came before. -/
theorem reported_monitor {m : ArrayMoment ν} (h : m.Reported) (now : Timestamp)
    (event : ChannelEvent) (todo : List ChannelEvent) : (m.monitor now event todo).Reported := by
  rcases m.array.monitorEvent_cases now m.world.metrics event with
    ⟨r, tree, hreading, hupdate, hevent⟩ | ⟨hreading, tree, hquiet, -, hevent⟩
  · have harray : (m.monitor now event todo).array =
        { m.array with tree, updatedAt := some r.time } := hevent
    have hreadings : (m.monitor now event todo).readings = m.readings ++ [r] := by
      simp [monitor, hreading]
    constructor
    · rw [harray, hreadings]
      exact h.latest.update hupdate
    · rw [harray, hreadings]
      simp
  · have harray : (m.monitor now event todo).array = { m.array with tree } := hevent
    have hreadings : (m.monitor now event todo).readings = m.readings := by
      simp [monitor, hreading]
    constructor
    · rw [harray, hreadings]
      exact h.latest.quiet hquiet
    · rw [harray, hreadings]
      exact h.updatedAt

variable [Network ν]

theorem reported_step {m : ArrayMoment ν} (hready : m.array.Ready) (h : m.Reported)
    (act : ArrayAct ν) : (m.step act).Reported := by
  cases act with
  | activate => exact h.quiet m.array.quiet_activate (CorrelatorArray.updatedAt_activate hready)
  | add path => exact h.quiet (m.array.quiet_ensureSensor path) rfl
  | mark liveness => exact ⟨h.latest, h.updatedAt⟩
  | takeControl => exact ⟨h.latest, h.updatedAt⟩
  | takeMonitor => exact ⟨h.latest, h.updatedAt⟩
  | control =>
    rcases m.step_control_cases with ⟨-, hstep⟩ | ⟨event, todo, -, hstep⟩
    · rw [hstep]
      exact h
    · have hevent := h.quiet (m.array.quiet_controlEvent m.world.metrics event)
        (CorrelatorArray.updatedAt_controlEvent hready m.world.metrics event)
      rw [hstep]
      exact ⟨hevent.latest, hevent.updatedAt⟩
  | monitor now =>
    rcases m.step_monitor_cases now with ⟨-, hstep⟩ | ⟨event, todo, -, hstep⟩
    · rw [hstep]
      exact h
    · rw [hstep]
      exact reported_monitor h now event todo
  | flush => exact ⟨h.latest, h.updatedAt⟩
  | remote move => exact ⟨h.latest, h.updatedAt⟩

/-- Whatever happens to an array: each of its sensors has the last reading that came for it, and the
array was updated when the last reading came for any of them. What comes on the control channel
changes no sensor that is there, nor does anything on the monitor channel that brings no reading,
and whatever comes on the monitor channel, there is nothing more and nothing less in the tree. -/
theorem latest_reading (spec : Announcement) (cmcAddress : String) (plan : Plan)
    (maxRetries : UInt32) (control monitor : Link) (world : World ν) (acts : List (ArrayAct ν)) :
    let m := (start spec cmcAddress plan maxRetries control monitor world).run acts
    (∀ path s, (path, s) ∈ m.array.tree.entries →
        s = .reported path (lastReading? m.readings path)) ∧
      m.array.updatedAt = m.readings.getLast?.map (·.time) ∧
      (∀ metrics event, ∀ entry ∈ m.array.tree.entries,
        entry ∈ (m.array.controlEvent metrics event).1.tree.entries) ∧
      (∀ now metrics event, m.array.tree.reading? now event = none →
        ∀ entry ∈ m.array.tree.entries,
          entry ∈ (m.array.monitorEvent now metrics event).1.tree.entries) ∧
      ∀ now metrics event,
        (m.array.monitorEvent now metrics event).1.tree.unread = m.array.tree.unread := by
  intro m
  obtain ⟨hready, hreported⟩ : m.array.Ready ∧ m.Reported := by
    apply run_keeps (P := fun m => m.array.Ready ∧ m.Reported)
    · intro m act h
      exact ⟨ready_step h.1 act, reported_step h.1 h.2 act⟩
    · exact ⟨CorrelatorArray.ready_ofLinks .., start_reported ..⟩
  refine ⟨?_, hreported.updatedAt, ?_, ?_, ?_⟩
  · intro path s hs
    exact hreported.latest.reported path s ((SensorTree.mem_entries_iff hready.sound).1 hs)
  · intro metrics event
    exact (m.array.quiet_controlEvent metrics event).entries hready.sound
  · intro now metrics event hnone
    rcases m.array.monitorEvent_cases now metrics event with
      ⟨r, tree, hsome, -, -⟩ | ⟨-, tree, hquiet, -, hevent⟩
    · rw [hnone] at hsome
      contradiction
    · rw [hevent]
      exact hquiet.entries hready.sound
  · intro now metrics event
    rcases m.array.monitorEvent_cases now metrics event with
      ⟨r, tree, -, hupdate, hevent⟩ | ⟨-, tree, -, hunread, hevent⟩
    · rw [hevent]
      exact SensorTree.unread_update hupdate
    · rw [hevent]
      exact hunread

end ArrayMoment

end ArrayWatch
