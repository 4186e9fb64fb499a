import ArrayWatch.Proofs.HostPayloads
import ArrayWatch.Proofs.Routing

/-!
# Activating an array again

An activation makes sure of the sensors of the plan. The second one finds them all, wherever the
first one or anything after it has put them, and makes sure of a sensor that is there by leaving it
alone: at every level the item is found, nothing is changed in it, and it is put back. On an engine
the virtual device is there too, because the virtual devices of a host are the device names of its
engines. So nothing that was read is lost.

* `SensorTree.ensure_eq_self`: a sensor that is there is made sure of without a change.
* `ArrayMoment.reactivation_keeps`: all that a further activation does to an array.
-/

namespace ArrayWatch

/-! ## Items that are there -/

namespace Keyed

variable {Item Key : Type} [DecidableEq Key] {keyOf : Item → Key} {key : Key} {items : List Item}
  {item : Item}

theorem upsert_eq_self {fresh : Item} {change : Item → Item}
    (hfound : get? keyOf key items = some item) (hsame : change item = item) :
    upsert keyOf key fresh change items = items := by
  induction items with
  | nil => contradiction
  | cons first rest ih =>
    rw [get?_cons] at hfound
    unfold upsert
    split
    · rename_i hfirst
      rw [if_pos hfirst] at hfound
      obtain rfl := Option.some.inj hfound
      rw [hsame]
    · rename_i hfirst
      rw [if_neg hfirst] at hfound
      rw [ih hfound]

theorem update_eq_self {ε : Type} {missing : ε} {change : Item → Except ε Item}
    (hfound : get? keyOf key items = some item) (hsame : change item = .ok item) :
    update keyOf key missing change items = .ok items := by
  induction items with
  | nil => contradiction
  | cons first rest ih =>
    rw [get?_cons] at hfound
    unfold update
    split
    · rename_i hfirst
      rw [if_pos hfirst] at hfound
      obtain rfl := Option.some.inj hfound
      rw [hsame]
      rfl
    · rename_i hfirst
      rw [if_neg hfirst] at hfound
      rw [ih hfound]
      rfl

omit [DecidableEq Key] in
theorem exists_of_isSome_bind {S : Type} {found : Option Item} {find : Item → Option S}
    (h : (found.bind find).isSome) : ∃ item, found = some item ∧ (find item).isSome := by
  cases found with
  | none => contradiction
  | some item => exact ⟨item, rfl, h⟩

/-- Something is found through a key, so the item with the key is there and it is found in it. -/
theorem exists_item_of_through {Place S : Type} {find : Item → Place → Option S} {place : Place}
    (h : (through keyOf find items (key, place)).isSome) :
    ∃ item, get? keyOf key items = some item ∧ (find item place).isSome :=
  exists_of_isSome_bind h

end Keyed

/-! ## Sensors that are there -/

theorem Device.ensure_eq_self {d : Device} {sensor : String} (h : (d.sensor? sensor).isSome) :
    d.ensure sensor = d := by
  obtain ⟨s, hs⟩ := Option.isSome_iff_exists.1 h
  have hsensors : Keyed.upsert Sensor.name sensor (.fresh sensor) id d.sensors = d.sensors :=
    Keyed.upsert_eq_self hs rfl
  unfold ensure
  rw [hsensors]

theorem Devices.ensure_eq_self {devices : List Device} {device sensor : String}
    (h : (sensor? devices (device, sensor)).isSome) : ensure devices device sensor = devices := by
  obtain ⟨d, hd, hsensor⟩ := Keyed.exists_item_of_through h
  exact Keyed.upsert_eq_self hd (Device.ensure_eq_self hsensor)

theorem Engine.ensure_eq_self {e : Engine} {device sensor : String}
    (h : (e.sensor? (device, sensor)).isSome) : e.ensure device sensor = e := by
  unfold ensure
  rw [Devices.ensure_eq_self h]

namespace Host

/-- A device of an engine that carries a sensor is among the device names. -/
theorem mem_engineDeviceNames {h : Host} {engine device sensor : String}
    (hthere : (h.sensor? (.engine engine device sensor)).isSome) :
    device ∈ h.engineDeviceNames := by
  obtain ⟨e, he, hdevice⟩ := Keyed.exists_item_of_through hthere
  obtain ⟨d, hd, -⟩ := Keyed.exists_item_of_through hdevice
  obtain ⟨hmem, hname⟩ := Keyed.mem_of_get?_eq_some hd
  refine List.mem_flatMap.2 ⟨e, (Keyed.mem_of_get?_eq_some he).1, ?_⟩
  exact hname ▸ List.mem_map_of_mem hmem

theorem ensure_eq_self {h : Host} (hm : h.Mirrored) {place : HostPlace}
    (hthere : (h.sensor? place).isSome) : h.ensure place = h := by
  cases place with
  | device device sensor =>
    have hdevices : Devices.ensure h.devices device sensor = h.devices :=
      Devices.ensure_eq_self hthere
    show { h with devices := _ } = h
    rw [hdevices]
  | engine engine device sensor =>
    obtain ⟨e, he, hsensor⟩ := Keyed.exists_item_of_through hthere
    have hengines : Keyed.upsert Engine.name engine (.empty engine) (·.ensure device sensor)
        h.engines = h.engines :=
      Keyed.upsert_eq_self he (Engine.ensure_eq_self hsensor)
    have hvirtual : Keyed.upsert VirtualDevice.name device ⟨device, h.id⟩ (fun v => v)
        h.virtualDevices = h.virtualDevices :=
      Keyed.upsert_id_of_mem ((hm.mem_names device).2 (mem_engineDeviceNames hthere))
    show { h with engines := _, virtualDevices := _ } = h
    rw [hengines, hvirtual]

end Host

theorem Team.modify_eq_self {t : Team} {index : Nat} {host : Host}
    {change : Host → Except TreeError Host} (hhost : t.host? index = some host)
    (hsame : change host = .ok host) : t.modify index change = .ok t := by
  obtain ⟨hlt, rfl⟩ := List.getElem?_eq_some_iff.1 hhost
  unfold modify
  rw [hhost]
  dsimp only
  rw [hsame]
  show Except.ok { t with hosts := t.hosts.set index t.hosts[index] } = Except.ok t
  rw [List.set_getElem_self]

namespace SensorTree

variable {t : SensorTree}

/-- A sensor that is there is made sure of without a change. -/
theorem ensure_eq_self (hm : t.Mirrored) {path : SensorPath} (hthere : (t.sensor? path).isSome) :
    t.ensure path = (t, .ok ()) := by
  rcases path.array_or_host with ⟨sensor, rfl⟩ | ⟨id, place, rfl⟩
  · have htop : t.top.ensure sensor = t.top := Device.ensure_eq_self hthere
    show ({ t with top := _ }, _) = (t, _)
    rw [htop]
  · rw [sensor?_path] at hthere
    obtain ⟨team, hteam, hfound⟩ := Keyed.exists_item_of_through hthere
    obtain ⟨host, hhost, hsensor⟩ := Keyed.exists_of_isSome_bind hfound
    obtain ⟨hmem, hkind⟩ := Keyed.mem_of_get?_eq_some hteam
    have hmirrored : host.Mirrored := hm.hosts team hmem host (List.mem_of_getElem? hhost)
    have hensured : t.ensureTeam id.team = t :=
      ensureTeam_eq_self (hkind ▸ List.mem_map_of_mem hmem)
    have hkept : t.modifyTeam id.team (·.modify id.index fun host => .ok (host.ensure place)) =
        .ok t := by
      have hhost' : Except.ok (ε := TreeError) (host.ensure place) = .ok host := by
        rw [Host.ensure_eq_self hmirrored hsensor]
      rw [modifyTeam_eq, Keyed.update_eq_self hteam (Team.modify_eq_self hhost hhost')]
      rfl
    rw [ensure_path]
    unfold modifyTeamEnsured
    rw [hensured]
    dsimp only
    rw [hkept]
    rfl

theorem ensureAll_eq_self (hm : t.Mirrored) {paths : List SensorPath}
    (hthere : ∀ path ∈ paths, (t.sensor? path).isSome) : t.ensureAll paths = t := by
  induction paths with
  | nil => rfl
  | cons path rest ih =>
    have hfirst : (t.ensure path).1 = t := by
      rw [ensure_eq_self hm (hthere path List.mem_cons_self)]
    show (t.ensure path).1.ensureAll rest = t
    rw [hfirst]
    exact ih fun path hpath => hthere path (List.mem_cons_of_mem _ hpath)

end SensorTree

/-! ## Arrays -/

namespace CorrelatorArray

/-- An array whose subscribed sensors are there, if it was ever activated. -/
structure Settled (a : CorrelatorArray) : Prop where
  ready : a.Ready
  subscribed : a.Subscribed
  mirrored : a.tree.Mirrored

variable {a : CorrelatorArray}

theorem Settled.told (h : a.Settled) (state configFile : String) :
    (a.told state configFile).Settled :=
  ⟨h.ready.told state configFile, h.subscribed, h.mirrored⟩

/-- A further activation finds every sensor, and gives its requests to the channels. -/
theorem activate_again (h : a.Settled) (hactive : 0 < a.activations) :
    a.activate = { a with
      activations := a.activations + 1
      control := a.control.push (.sensorSampling "input-labelling")
      monitor := a.monitor.pushAll (a.plan.fanOut a.antennas) } := by
  have htree : a.tree.ensureAll (a.plan.targets a.antennas ++ [.array deviceStatus]) = a.tree :=
    SensorTree.ensureAll_eq_self h.mirrored (h.subscribed hactive)
  rw [activate_eq h.ready, htree, Plan.fanOut_eq]
  rfl

theorem setInstrumentState_again (h : a.Settled) (hactive : 0 < a.activations)
    (state configFile : String) :
    ∃ activations control monitor, a.setInstrumentState state configFile =
      { a.told state configFile with activations, control, monitor } := by
  rcases a.setInstrumentState_cases state configFile with
    ⟨⟨hstate, hconfig⟩, hset⟩ | ⟨-, ⟨-, hset⟩ | ⟨-, hset⟩⟩
  · refine ⟨a.activations, a.control, a.monitor, ?_⟩
    rw [hset, hstate, hconfig]
    rfl
  · exact ⟨_, _, _, hset.trans (activate_again (h.told state configFile) hactive)⟩
  · exact ⟨_, _, _, hset⟩

end CorrelatorArray

/-! ## Runs -/

namespace ArrayMoment

variable {ν : Type} [Network ν]

theorem settled_of_start (spec : Announcement) (cmcAddress : String) (plan : Plan)
    (maxRetries : UInt32) (control monitor : Link) (world : World ν) (acts : List (ArrayAct ν)) :
    ((start spec cmcAddress plan maxRetries control monitor world).run acts).array.Settled := by
  apply run_keeps (P := fun m => m.array.Settled)
  · intro m act h
    refine ⟨ready_step h.ready act, subscribed_step h.ready h.subscribed act, ?_⟩
    apply tree_step _ _ h.mirrored act
    · intro t t' hstep
      exact hstep.mirrored
    · intro t t' path value status now
      exact SensorTree.mirrored_update
  · exact ⟨CorrelatorArray.ready_ofLinks .., nofun, SensorTree.mirrored_empty ..⟩

/-- Whatever happened to an array since it was first activated: one more activation counts itself
and gives its requests to the two channels, and leaves everything else of the array as it is, every
node of its tree and every reading. So does a report about the instrument, whether it activates the
array or not, but for what it says of the instrument. -/
theorem reactivation_keeps (spec : Announcement) (cmcAddress : String) (plan : Plan)
    (maxRetries : UInt32) (control monitor : Link) (world : World ν) (acts : List (ArrayAct ν)) :
    let m := (start spec cmcAddress plan maxRetries control monitor world).run acts
    0 < m.array.activations →
      m.array.activate = { m.array with
        activations := m.array.activations + 1
        control := m.array.control.push (.sensorSampling "input-labelling")
        monitor := m.array.monitor.pushAll (plan.fanOut spec.antennas) } ∧
      ∀ event metrics state configFile, event.instrument? = some (state, configFile) →
        ∃ activations control monitor, (m.array.controlEvent metrics event).1 =
          { m.array with
            instrumentState := state
            configFile := configFile
            activations, control, monitor } := by
  intro m hactive
  have hsettled : m.array.Settled :=
    settled_of_start spec cmcAddress plan maxRetries control monitor world acts
  obtain ⟨hspec, hplan⟩ : m.array.spec = spec ∧ m.array.plan = plan :=
    settings_run (start spec cmcAddress plan maxRetries control monitor world) acts
  constructor
  · have hrequests : m.array.plan.fanOut m.array.antennas = plan.fanOut spec.antennas := by
      rw [CorrelatorArray.antennas, hspec, hplan]
    rw [CorrelatorArray.activate_again hsettled hactive, hrequests]
  · intro event metrics state configFile hreport
    rcases m.array.controlEvent_cases metrics event with
      ⟨state', configFile', hreport', hevent⟩ | ⟨hnone, -⟩
    · rw [hreport] at hreport'
      obtain ⟨rfl, rfl⟩ := Prod.mk.inj (Option.some.inj hreport')
      obtain ⟨activations, control, monitor, hset⟩ :=
        CorrelatorArray.setInstrumentState_again hsettled hactive state configFile
      exact ⟨activations, control, monitor, hevent.trans hset⟩
    · rw [hreport] at hnone
      contradiction

/-! ### A reading before the second activation -/

/-- An activation, a sensor on a team that no plan knows, and a reading. -/
def yardActs : List (ArrayAct ScriptedNetwork) :=
  [.activate, .add (.host ⟨'z', 1⟩ "power" "volts"),
    .remote fun net => net.modify 1 fun link => link.happen (.line
      ⟨.inform, ["sensor-status", "1", "1", "yhost02.net.device-status", "warn", "hot"]⟩),
    .takeMonitor, .monitor ⟨5⟩]

def yardWorld : World ScriptedNetwork :=
  ⟨⟨[.new "cmc:7148" none, .new "cmc:7149" none]⟩, .zero⟩

def yardRead : ArrayMoment ScriptedNetwork :=
  (start ⟨"yard", 7148, 7149, 3⟩ "cmc" yardPlan 0 ⟨0, "cmc:7148"⟩ ⟨1, "cmc:7149"⟩ yardWorld).run
    yardActs

theorem reactivation_keeps_yard :
    0 < yardRead.array.activations ∧
      yardRead.array.activate.activations = yardRead.array.activations + 1 ∧
      yardRead.array.activate.tree = yardRead.array.tree ∧
      yardRead.array.tree.sensor? (.host ⟨'y', 2⟩ "net" "device-status") =
        some ⟨"device-status", "hot", "warn", some ⟨5⟩⟩ := by
  have hactive : 0 < yardRead.array.activations := by decide +kernel
  obtain ⟨hagain, -⟩ := reactivation_keeps ⟨"yard", 7148, 7149, 3⟩ "cmc" yardPlan 0
    ⟨0, "cmc:7148"⟩ ⟨1, "cmc:7149"⟩ yardWorld yardActs hactive
  have hcount := congrArg CorrelatorArray.activations hagain
  have htree := congrArg CorrelatorArray.tree hagain
  exact ⟨hactive, hcount, htree, by decide +kernel⟩

end ArrayMoment

end ArrayWatch
