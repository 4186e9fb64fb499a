import ArrayWatch.Proofs.ArrayRun

/-!
# What always holds of the sensor tree

A lookup takes the first item that fits, and the status of a virtual device is put together from
the engines that carry a device of its name. Both rest on the shape of the tree: no name is twice at
any level, every team has a host for each antenna, and the virtual devices of a host are the device
names of its engines. The tree of an array is made in this shape, and whatever comes for the array
leaves it so.

The part about the names is `SensorTree.Sound`. Here the virtual devices and the two teams of every
array are added to it. A change that only brings words (`SensorTree.unread`) does not touch them;
what remains is the one operation that adds a sensor to an engine, and the teams that are made on
demand.

* `Host.Mirrored`: the virtual devices of a host. `Host.mirrored_ensure` is the step.
* `ArrayMoment.tree_step`: what the changes of a tree keep is kept by every part of a run.
* `ArrayMoment.tree_lawful`: the shape of the tree at every moment of every run.
-/

namespace ArrayWatch

/-! ## Items after an upsert -/

namespace Keyed

variable {Item Key : Type} [DecidableEq Key] {keyOf : Item → Key} {key : Key} {fresh : Item}
  {change : Item → Item}

/-- The change makes `R` true of one item, where it may have been true before, and nothing else. -/
theorem exists_mem_upsert {Q : Item → Prop} {R : Prop} (hkey : keyOf fresh = key)
    (hchange : ∀ item, keyOf item = key → (Q (change item) ↔ R ∨ Q item)) (hfresh : Q fresh → R)
    (items : List Item) :
    (∃ item ∈ upsert keyOf key fresh change items, Q item) ↔ R ∨ ∃ item ∈ items, Q item := by
  rcases upsert_cases keyOf key fresh change items with
    ⟨-, hadded⟩ | ⟨before, item, after, rfl, hchanged, -, hitem⟩
  · have hnew : Q (change fresh) ↔ R := by
      rw [hchange fresh hkey]
      exact or_iff_left_of_imp hfresh
    rw [hadded]
    simp only [List.mem_append, List.mem_singleton, or_and_right, exists_or, exists_eq_left, hnew]
    exact or_comm
  · rw [hchanged]
    simp only [List.mem_append, List.mem_cons, or_and_right, exists_or, exists_eq_left,
      hchange item hitem]
    rw [or_assoc, or_left_comm]

/-- Afterwards there is an item with the key, and the other keys are those that were there. -/
theorem mem_keys_upsert (hkey : keyOf fresh = key) (hkeep : ∀ item, keyOf (change item) = keyOf item)
    (items : List Item) (other : Key) :
    other ∈ (upsert keyOf key fresh change items).map keyOf ↔
      other = key ∨ other ∈ items.map keyOf := by
  simp only [List.mem_map]
  apply exists_mem_upsert hkey
  · intro item hitem
    rw [hkeep, hitem]
    exact ⟨fun h => .inr h, fun h => h.elim Eq.symm fun h => h⟩
  · rintro rfl
    exact hkey

end Keyed

/-! ## Virtual devices -/

/-- The device names of all engines. -/
def Host.engineDeviceNames (h : Host) : List String :=
  h.engines.flatMap fun e => e.devices.map Device.name

/-- One virtual device for each device name of the engines, for this host, and no other one. -/
structure Host.Mirrored (h : Host) : Prop where
  each : Keyed.Sound VirtualDevice.name (fun v => v.host = h.id) h.virtualDevices
  mem_names : ∀ name, name ∈ h.virtualDevices.map VirtualDevice.name ↔ name ∈ h.engineDeviceNames

namespace Host

theorem engineDeviceNames_unread (h : Host) : h.unread.engineDeviceNames = h.engineDeviceNames := by
  unfold engineDeviceNames unread
  rw [List.flatMap_map]
  apply List.flatMap_congr
  intro e _
  have hnames : ∀ d : Device, d.unread.name = d.name := fun _ => rfl
  show (e.devices.map Device.unread).map Device.name = e.devices.map Device.name
  rw [List.map_map]
  exact List.map_congr_left fun d _ => hnames d

theorem mirrored_empty (id : HostId) : (empty id).Mirrored :=
  ⟨.nil _ _, fun _ => Iff.rfl⟩

/-- Words that are brought to a host are no matter. -/
theorem Mirrored.of_unread {h h' : Host} (hm : h.Mirrored) (hsame : h'.unread = h.unread) :
    h'.Mirrored := by
  have hid : h'.unread.id = h.unread.id := by rw [hsame]
  have hvirtual : h'.unread.virtualDevices = h.unread.virtualDevices := by rw [hsame]
  change h'.id = h.id at hid
  change h'.virtualDevices = h.virtualDevices at hvirtual
  have hnames : h'.engineDeviceNames = h.engineDeviceNames := by
    rw [← engineDeviceNames_unread, hsame, engineDeviceNames_unread]
  constructor
  · rw [hid, hvirtual]
    exact hm.each
  · rw [hvirtual, hnames]
    exact hm.mem_names

theorem mem_engineDeviceNames_ensureEngine (h : Host) (engine device sensor name : String) :
    name ∈ (h.ensureEngine engine device sensor).engineDeviceNames ↔
      name = device ∨ name ∈ h.engineDeviceNames := by
  unfold engineDeviceNames ensureEngine
  simp only [List.mem_flatMap]
  apply Keyed.exists_mem_upsert
  · rfl
  · intro e _
    apply Keyed.mem_keys_upsert
    · rfl
    · intro d
      rfl
  · exact fun hnone => absurd hnone List.not_mem_nil

theorem mirrored_ensure {h : Host} (hm : h.Mirrored) (place : HostPlace) :
    (h.ensure place).Mirrored := by
  cases place with
  | device d sensor => exact ⟨hm.each, hm.mem_names⟩
  | engine e d sensor =>
    constructor
    · apply Keyed.sound_upsert hm.each
      · rfl
      · intro v
        rfl
      · rfl
      · intro v _ hv
        exact hv
    · intro name
      have hnames := mem_engineDeviceNames_ensureEngine h e d sensor name
      rw [← hm.mem_names] at hnames
      refine Iff.trans ?_ hnames.symm
      apply Keyed.mem_keys_upsert
      · rfl
      · intro v
        rfl

end Host

/-! ## Hosts of a tree -/

namespace SensorTree

variable {t t' : SensorTree} {P : Host → Prop}

def Every (P : Host → Prop) (t : SensorTree) : Prop := ∀ team ∈ t.teams, ∀ host ∈ team.hosts, P host

def kinds (t : SensorTree) : List Char := t.teams.map Team.kind

theorem kinds_modifyHost {id : HostId} {change : Host → Except TreeError Host}
    (hok : t.modifyTeam id.team (·.modify id.index change) = .ok t') : t'.kinds = t.kinds := by
  rw [modifyTeam_eq] at hok
  obtain ⟨teams, hteams, rfl⟩ := Keyed.eq_ok_of_map hok
  exact Keyed.map_update Team.kind hteams fun team team' hteam => Team.kind_modify hteam

theorem every_modifyHost {id : HostId} {change : Host → Except TreeError Host} (h : t.Every P)
    (hok : t.modifyTeam id.team (·.modify id.index change) = .ok t')
    (hchange : ∀ host host', change host = .ok host' → P host → P host') : t'.Every P := by
  rw [modifyTeam_eq] at hok
  obtain ⟨teams, hteams, rfl⟩ := Keyed.eq_ok_of_map hok
  obtain ⟨before, team, team', after, hbefore, rfl, -, -, hteam⟩ := Keyed.update_eq_ok hteams
  unfold Every at h
  rw [hbefore] at h
  have hhosts : ∀ host ∈ team.hosts, P host :=
    h team (List.mem_append_right _ List.mem_cons_self)
  have hhosts' : ∀ host ∈ team'.hosts, P host := by
    obtain ⟨host, host', hhost, hchanged, rfl⟩ := Team.modify_eq_ok hteam
    intro other hother
    rcases List.mem_or_eq_of_mem_set hother with hold | rfl
    · exact hhosts other hold
    · exact hchange host other hchanged (hhosts host (List.mem_of_getElem? hhost))
  show ∀ team ∈ before ++ team' :: after, ∀ host ∈ team.hosts, P host
  exact Keyed.each_replace h hhosts'

theorem every_ensureTeam (hempty : ∀ id, P (.empty id)) (h : t.Every P) (kind : Char) :
    (t.ensureTeam kind).Every P := by
  intro team hteam
  have hcases := Keyed.upsert_cases Team.kind kind (.empty kind t.antennas) id t.teams
  unfold ensureTeam at hteam
  dsimp only at hteam
  rcases hcases with ⟨-, hadded⟩ | ⟨before, old, after, hteams, hsame, -, -⟩
  · rw [hadded] at hteam
    rcases List.mem_append.1 hteam with hold | hnew
    · exact h team hold
    · obtain rfl := List.mem_singleton.1 hnew
      intro host hhost
      obtain ⟨index, -, rfl⟩ := List.mem_map.1 hhost
      exact hempty ⟨kind, index⟩
  · rw [hsame] at hteam
    exact h team (hteams ▸ hteam)

theorem mem_kinds_ensureTeam (t : SensorTree) (kind other : Char) :
    other ∈ (t.ensureTeam kind).kinds ↔ other = kind ∨ other ∈ t.kinds := by
  apply Keyed.mem_keys_upsert
  · rfl
  · intro team
    rfl

/-- Every host has its virtual devices, and the two teams that every array has are there. -/
structure Mirrored (t : SensorTree) : Prop where
  channelisers : channeliserTeam ∈ t.kinds
  correlators : correlatorTeam ∈ t.kinds
  hosts : t.Every Host.Mirrored

theorem mirrored_empty (name : String) (antennas : Nat) : (empty name antennas).Mirrored := by
  refine ⟨List.mem_cons_self, List.mem_cons_of_mem _ List.mem_cons_self, ?_⟩
  intro team hteam host hhost
  simp only [empty, List.mem_cons, List.not_mem_nil, or_false] at hteam
  rcases hteam with rfl | rfl
  all_goals
    obtain ⟨index, -, rfl⟩ := List.mem_map.1 hhost
    exact Host.mirrored_empty _

theorem mirrored_ensureTeam (h : t.Mirrored) (kind : Char) : (t.ensureTeam kind).Mirrored :=
  ⟨(t.mem_kinds_ensureTeam kind _).2 (.inr h.channelisers),
    (t.mem_kinds_ensureTeam kind _).2 (.inr h.correlators),
    every_ensureTeam Host.mirrored_empty h.hosts kind⟩

theorem mirrored_modifyHost {id : HostId} {change : Host → Except TreeError Host} (h : t.Mirrored)
    (hok : t.modifyTeam id.team (·.modify id.index change) = .ok t')
    (hchange : ∀ host host', change host = .ok host' → host.Mirrored → host'.Mirrored) :
    t'.Mirrored := by
  have hkinds := kinds_modifyHost hok
  refine ⟨?_, ?_, every_modifyHost h.hosts hok hchange⟩
  · rw [hkinds]
    exact h.channelisers
  · rw [hkinds]
    exact h.correlators

theorem mirrored_modifyHostEnsured {id : HostId} {change : Host → Host} (h : t.Mirrored)
    (hchange : ∀ host, host.Mirrored → (change host).Mirrored) :
    (t.modifyTeamEnsured id.team (·.modify id.index fun host => .ok (change host))).1.Mirrored := by
  have hensured := mirrored_ensureTeam h id.team
  rcases t.modifyTeamEnsured_cases id.team (·.modify id.index fun host => .ok (change host)) with
    ⟨t', hok, hresult⟩ | ⟨e, -, hresult⟩
  · rw [hresult]
    apply mirrored_modifyHost hensured hok
    intro host host' hhost
    obtain rfl := Except.ok.inj hhost
    exact hchange host
  · rw [hresult]
    exact hensured

theorem QuietStep.mirrored (hstep : QuietStep t t') (h : t.Mirrored) : t'.Mirrored := by
  cases hstep with
  | ensure path =>
    rcases path.array_or_host with ⟨sensor, rfl⟩ | ⟨id, place, rfl⟩
    · exact ⟨h.channelisers, h.correlators, h.hosts⟩
    · rw [ensure_path]
      exact mirrored_modifyHostEnsured h fun host hm => Host.mirrored_ensure hm place
  | serial hok =>
    apply mirrored_modifyHost h hok
    intro host host' hhost hm
    obtain rfl := Except.ok.inj hhost
    exact hm.of_unread rfl
  | label index label =>
    have hchange : ∀ host : Host, host.Mirrored → (host.setInputLabel label).Mirrored :=
      fun host hm => hm.of_unread rfl
    exact @mirrored_modifyHostEnsured t ⟨channeliserTeam, index⟩ _ h hchange

theorem mirrored_update {path : SensorPath} {value status : String} {now : Timestamp}
    (hok : t.update path value status now = .ok t') (h : t.Mirrored) : t'.Mirrored := by
  rcases path.array_or_host with ⟨sensor, rfl⟩ | ⟨id, place, rfl⟩
  · rw [update_array] at hok
    obtain ⟨top, -, rfl⟩ := Keyed.eq_ok_of_map hok
    exact ⟨h.channelisers, h.correlators, h.hosts⟩
  · rw [update_path] at hok
    apply mirrored_modifyHost h hok
    intro host host' hhost hm
    exact hm.of_unread (Host.unread_update hhost)

theorem Quiet.induct {P : SensorTree → Prop} (hstep : ∀ t t', QuietStep t t' → P t → P t')
    (hquiet : Quiet t t') (h : P t) : P t' := by
  induction hquiet with
  | refl => exact h
  | tail _ hlast ih => exact hstep _ _ hlast ih

end SensorTree

/-! ## The shape, spelled out -/

/-- No name is twice on a host, and its virtual devices are the device names of its engines. -/
structure Host.Lawful (h : Host) : Prop where
  devices : (h.devices.map Device.name).Nodup
  sensors : ∀ d ∈ h.devices, (d.sensors.map Sensor.name).Nodup
  engines : (h.engines.map Engine.name).Nodup
  engineDevices : ∀ e ∈ h.engines, (e.devices.map Device.name).Nodup
  engineSensors : ∀ e ∈ h.engines, ∀ d ∈ e.devices, (d.sensors.map Sensor.name).Nodup
  virtualDevices : (h.virtualDevices.map VirtualDevice.name).Nodup
  mem_virtualDevices : ∀ name, name ∈ h.virtualDevices.map VirtualDevice.name ↔
    ∃ e ∈ h.engines, name ∈ e.devices.map Device.name
  virtualHost : ∀ v ∈ h.virtualDevices, v.host = h.id

/-- The tree of an array with so many antennas. -/
structure SensorTree.Lawful (antennas : Nat) (t : SensorTree) : Prop where
  teams : (t.teams.map Team.kind).Nodup
  channelisers : 'f' ∈ t.teams.map Team.kind
  correlators : 'x' ∈ t.teams.map Team.kind
  sizes : ∀ team ∈ t.teams, team.hosts.length = antennas
  ids : ∀ team ∈ t.teams, ∀ (i : Nat) (host : Host), team.hosts[i]? = some host →
    host.id = ⟨team.kind, i⟩
  sensors : (t.top.sensors.map Sensor.name).Nodup
  hosts : ∀ team ∈ t.teams, ∀ host ∈ team.hosts, host.Lawful

theorem Host.lawful_of {h : Host} (hs : h.Sound) (hm : h.Mirrored) : h.Lawful := by
  refine ⟨hs.devices.nodup, ?_, hs.engines.nodup, ?_, ?_, hm.each.nodup, ?_, hm.each.each⟩
  · intro d hd
    exact (hs.devices.each d hd).nodup
  · intro e he
    exact (hs.engines.each e he).nodup
  · intro e he d hd
    exact ((hs.engines.each e he).each d hd).nodup
  · intro name
    rw [hm.mem_names, engineDeviceNames, List.mem_flatMap]

theorem SensorTree.lawful_of {t : SensorTree} (hs : t.Sound) (hm : t.Mirrored) :
    t.Lawful t.antennas := by
  refine ⟨hs.teams.nodup, hm.channelisers, hm.correlators, ?_, ?_, hs.top.nodup, ?_⟩
  · intro team hteam
    have hids := congrArg List.length (hs.teams.each team hteam).ids
    simpa using hids
  · intro team hteam i host hhost
    exact ((hs.teams.each team hteam).host?_eq_some_iff.1 hhost).2
  · intro team hteam host hhost
    exact Host.lawful_of ((hs.teams.each team hteam).hosts host hhost) (hm.hosts team hteam host hhost)

/-! ## Runs -/

namespace ArrayMoment

variable {ν : Type} [Network ν]

/-- A tree changes by quiet changes and by readings, in every part of a run. -/
theorem tree_step {P : SensorTree → Prop} (hquiet : ∀ t t', SensorTree.QuietStep t t' → P t → P t')
    (hupdate : ∀ t t' path value status now,
      SensorTree.update t path value status now = .ok t' → P t → P t')
    {m : ArrayMoment ν} (h : P m.array.tree) (act : ArrayAct ν) : P (m.step act).array.tree := by
  cases act with
  | activate => exact m.array.quiet_activate.induct hquiet h
  | add path => exact (m.array.quiet_ensureSensor path).induct hquiet h
  | mark liveness => exact h
  | takeControl => exact h
  | takeMonitor => exact h
  | control =>
    rcases m.step_control_cases with ⟨-, hstep⟩ | ⟨event, todo, -, hstep⟩
    · rw [hstep]
      exact h
    · rw [hstep]
      exact (m.array.quiet_controlEvent m.world.metrics event).induct hquiet h
  | monitor now =>
    rcases m.step_monitor_cases now with ⟨-, hstep⟩ | ⟨event, todo, -, hstep⟩
    · rw [hstep]
      exact h
    · have harray : (m.step (.monitor now)).array =
          (m.array.monitorEvent now m.world.metrics event).1 := by
        rw [hstep]
        rfl
      rw [harray]
      rcases m.array.monitorEvent_cases now m.world.metrics event with
        ⟨r, tree, -, hreading, hevent⟩ | ⟨-, tree, hsome, -, hevent⟩
      · rw [hevent]
        exact hupdate _ _ _ _ _ _ hreading h
      · rw [hevent]
        exact hsome.induct hquiet h
  | flush => exact h
  | remote move => exact h

/-- Whatever happens to an array: its teams are of different kinds, `f` and `x` among them, and
each has one host for each antenna, in the order of their numbers. No name is twice at any level,
and every host has exactly one virtual device for each device name of its engines. -/
theorem tree_lawful (spec : Announcement) (cmcAddress : String) (plan : Plan)
    (maxRetries : UInt32) (control monitor : Link) (world : World ν) (acts : List (ArrayAct ν)) :
    let m := (start spec cmcAddress plan maxRetries control monitor world).run acts
    m.array.antennas = spec.antennas ∧ m.array.tree.Lawful spec.antennas := by
  intro m
  have hspec : m.array.spec = spec :=
    (settings_run (start spec cmcAddress plan maxRetries control monitor world) acts).1
  obtain ⟨hready, hmirrored⟩ : m.array.Ready ∧ m.array.tree.Mirrored := by
    apply run_keeps (P := fun m => m.array.Ready ∧ m.array.tree.Mirrored)
    · intro m act h
      refine ⟨ready_step h.1 act, tree_step ?_ ?_ h.2 act⟩
      · intro t t' hstep
        exact hstep.mirrored
      · intro t t' path value status now
        exact SensorTree.mirrored_update
    · exact ⟨CorrelatorArray.ready_ofLinks .., SensorTree.mirrored_empty ..⟩
  have hantennas : m.array.antennas = spec.antennas := congrArg Announcement.antennas hspec
  refine ⟨hantennas, ?_⟩
  have hlawful := SensorTree.lawful_of hready.sound hmirrored
  rwa [hready.antennas, hantennas] at hlawful

end ArrayMoment

end ArrayWatch
