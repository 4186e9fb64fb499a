import ArrayWatch.Proofs.TreeLookup

/-!
# The shape of the sensor tree

At no level of the tree is a name twice, and every team has one host for each antenna, the host of
the number `i` at the place `i`. That is so when the tree is made, and no operation changes it. So
what a lookup finds are all the sensors that there are, and a sensor of a host can be added if and
only if the number of the host is one of an antenna.

* `SensorTree.Sound`, with a lemma `sound_...` for each operation.
* `SensorTree.mem_entries_iff`: the lookup finds the sensors of the tree, no fewer and no others.
* `SensorTree.ensure_eq_ok_iff`: when a sensor can be added.
-/

namespace ArrayWatch

/-! ## Sound trees -/

def Device.Sound (d : Device) : Prop := Keyed.Sound Sensor.name (fun _ => True) d.sensors

def Devices.Sound (devices : List Device) : Prop := Keyed.Sound Device.name Device.Sound devices

def Engine.Sound (e : Engine) : Prop := Devices.Sound e.devices

structure Host.Sound (h : Host) : Prop where
  devices : Devices.Sound h.devices
  engines : Keyed.Sound Engine.name Engine.Sound h.engines

/-- One host for each antenna, in the order of their numbers. -/
structure Team.Sound (antennas : Nat) (t : Team) : Prop where
  ids : t.hosts.map Host.id = (List.range antennas).map fun index => ⟨t.kind, index⟩
  hosts : ∀ host ∈ t.hosts, host.Sound

structure SensorTree.Sound (t : SensorTree) : Prop where
  top : t.top.Sound
  teams : Keyed.Sound Team.kind (Team.Sound t.antennas) t.teams

/-! ## Sensors and places -/

/-- The sensors of a host with their places. -/
def Host.entries (h : Host) : List (SensorPath × Sensor) :=
  (h.devices.flatMap fun d => d.sensors.map fun s => (.host h.id d.name s.name, s)) ++
    h.engines.flatMap fun e => e.devices.flatMap fun d =>
      d.sensors.map fun s => (.engine h.id e.name d.name s.name, s)

/-- All sensors of a tree with their places. -/
def SensorTree.entries (t : SensorTree) : List (SensorPath × Sensor) :=
  t.top.sensors.map (fun s => (.array s.name, s)) ++
    t.teams.flatMap fun team => team.hosts.flatMap Host.entries

/-- Whether a place is on the array itself or on one of the hosts of a team. -/
def SensorPath.Within (antennas : Nat) : SensorPath → Prop
  | .array _ => True
  | .host id _ _ | .engine id _ _ _ => id.index < antennas

theorem SensorPath.within_path {antennas : Nat} {id : HostId} {place : HostPlace} :
    (place.path id).Within antennas ↔ id.index < antennas := by
  cases place <;> rfl

/-! ## Devices, engines and hosts -/

variable {value status : String} {now : Timestamp}

namespace Device

theorem sound_empty (name : String) : (empty name).Sound := Keyed.Sound.nil _ _

theorem sound_ensure {d : Device} (h : d.Sound) (sensor : String) : (d.ensure sensor).Sound := by
  apply Keyed.sound_upsert h
  · rfl
  · intro s
    rfl
  · trivial
  · intro s _ _
    trivial

theorem sound_update {d d' : Device} {sensor : String}
    (hok : d.update sensor value status now = .ok d') (h : d.Sound) : d'.Sound := by
  rw [update_eq] at hok
  obtain ⟨sensors, hsensors, rfl⟩ := Keyed.eq_ok_of_map hok
  apply Keyed.sound_update h hsensors
  · intro s s' hs
    obtain rfl := Except.ok.inj hs
    rfl
  · intro s s' _ _
    trivial

theorem Sound.sensor?_eq_some_iff {d : Device} (h : d.Sound) {name : String} {s : Sensor} :
    d.sensor? name = some s ↔ s ∈ d.sensors ∧ s.name = name :=
  Keyed.Sound.get?_eq_some_iff h

end Device

namespace Devices

theorem sound_nil : Sound [] := Keyed.Sound.nil _ _

theorem sound_ensure {devices : List Device} (h : Sound devices) (device sensor : String) :
    Sound (ensure devices device sensor) := by
  apply Keyed.sound_upsert h
  · rfl
  · intro d
    rfl
  · exact Device.sound_empty device
  · intro d _ hd
    exact Device.sound_ensure hd sensor

theorem sound_update {devices devices' : List Device} {device sensor : String} (h : Sound devices)
    (hok : update devices device sensor value status now = .ok devices') : Sound devices' := by
  apply Keyed.sound_update h hok
  · intro d d'
    exact Device.name_update
  · intro d d'
    exact Device.sound_update

theorem Sound.sensor?_eq_some_iff {devices : List Device} (h : Sound devices)
    {device sensor : String} {s : Sensor} :
    sensor? devices (device, sensor) = some s ↔
      ∃ d ∈ devices, d.name = device ∧ s ∈ d.sensors ∧ s.name = sensor := by
  apply Keyed.Sound.through_eq_some_iff h
  intro d hd
  exact Device.Sound.sensor?_eq_some_iff hd

end Devices

theorem Engine.sound_update {e e' : Engine} {device sensor : String}
    (hok : e.update device sensor value status now = .ok e') (h : e.Sound) : e'.Sound := by
  rw [update_eq] at hok
  obtain ⟨devices, hdevices, rfl⟩ := Keyed.eq_ok_of_map hok
  exact Devices.sound_update h hdevices

namespace Host

theorem sound_empty (id : HostId) : (empty id).Sound :=
  ⟨Devices.sound_nil, Keyed.Sound.nil _ _⟩

theorem sound_ensure {h : Host} (hs : h.Sound) (place : HostPlace) : (h.ensure place).Sound := by
  cases place with
  | device d sensor => exact ⟨Devices.sound_ensure hs.devices d sensor, hs.engines⟩
  | engine e d sensor =>
    refine ⟨hs.devices, ?_⟩
    apply Keyed.sound_upsert hs.engines
    · rfl
    · intro e
      rfl
    · exact Devices.sound_nil
    · intro e _ he
      exact Devices.sound_ensure he d sensor

theorem id_ensure (h : Host) (place : HostPlace) : (h.ensure place).id = h.id := by
  cases place <;> rfl

theorem sound_update {h h' : Host} {place : HostPlace}
    (hok : h.update value status now place = .ok h') (hs : h.Sound) : h'.Sound := by
  cases place with
  | device d sensor =>
    rw [update, updateDevice_eq] at hok
    obtain ⟨devices, hdevices, rfl⟩ := Keyed.eq_ok_of_map hok
    exact ⟨Devices.sound_update hs.devices hdevices, hs.engines⟩
  | engine e d sensor =>
    rw [update, updateEngine_eq] at hok
    obtain ⟨engines, hengines, rfl⟩ := Keyed.eq_ok_of_map hok
    refine ⟨hs.devices, ?_⟩
    apply Keyed.sound_update hs.engines hengines
    · intro e e'
      exact Engine.name_update
    · intro e e'
      exact Engine.sound_update

theorem id_update {h h' : Host} {place : HostPlace}
    (hok : h.update value status now place = .ok h') : h'.id = h.id := by
  cases place with
  | device d sensor =>
    rw [update, updateDevice_eq] at hok
    obtain ⟨devices, -, rfl⟩ := Keyed.eq_ok_of_map hok
    rfl
  | engine e d sensor =>
    rw [update, updateEngine_eq] at hok
    obtain ⟨engines, -, rfl⟩ := Keyed.eq_ok_of_map hok
    rfl

theorem Sound.sensor?_engine_eq_some_iff {h : Host} (hs : h.Sound)
    {engine device sensor : String} {s : Sensor} :
    h.sensor? (.engine engine device sensor) = some s ↔
      ∃ e ∈ h.engines, e.name = engine ∧
        ∃ d ∈ e.devices, d.name = device ∧ s ∈ d.sensors ∧ s.name = sensor := by
  apply Keyed.Sound.through_eq_some_iff hs.engines
  intro e he
  exact Devices.Sound.sensor?_eq_some_iff he

theorem Sound.mem_entries_iff {h : Host} (hs : h.Sound) {id : HostId} {place : HostPlace}
    {s : Sensor} :
    (place.path id, s) ∈ h.entries ↔ h.id = id ∧ h.sensor? place = some s := by
  cases place with
  | device device sensor =>
    have hlookup : h.sensor? (.device device sensor) = some s ↔ _ :=
      Devices.Sound.sensor?_eq_some_iff hs.devices
    rw [hlookup]
    simp only [entries, HostPlace.path, List.mem_append, List.mem_flatMap, List.mem_map,
      Prod.mk.injEq, SensorPath.host.injEq, reduceCtorEq, false_and, and_false, exists_const,
      or_false]
    constructor
    · rintro ⟨d, hd, s', hs', ⟨rfl, hdevice, hsensor⟩, rfl⟩
      exact ⟨rfl, d, hd, hdevice, hs', hsensor⟩
    · rintro ⟨rfl, d, hd, hdevice, hmem, hsensor⟩
      exact ⟨d, hd, s, hmem, ⟨rfl, hdevice, hsensor⟩, rfl⟩
  | engine engine device sensor =>
    rw [hs.sensor?_engine_eq_some_iff]
    simp only [entries, HostPlace.path, List.mem_append, List.mem_flatMap, List.mem_map,
      Prod.mk.injEq, SensorPath.engine.injEq, reduceCtorEq, false_and, and_false, exists_const,
      false_or]
    constructor
    · rintro ⟨e, he, d, hd, s', hs', ⟨rfl, hengine, hdevice, hsensor⟩, rfl⟩
      exact ⟨rfl, e, he, hengine, d, hd, hdevice, hs', hsensor⟩
    · rintro ⟨rfl, e, he, hengine, d, hd, hdevice, hmem, hsensor⟩
      exact ⟨e, he, d, hd, s, hmem, ⟨rfl, hengine, hdevice, hsensor⟩, rfl⟩

theorem array_not_mem_entries (h : Host) (sensor : String) (s : Sensor) :
    (.array sensor, s) ∉ h.entries := by
  simp [entries]

end Host

/-! ## Teams -/

namespace Team

theorem sound_empty (kind : Char) (antennas : Nat) : (empty kind antennas).Sound antennas := by
  constructor
  · simp [empty, Host.empty]
  · intro host hhost
    obtain ⟨index, -, rfl⟩ := List.mem_map.1 hhost
    exact Host.sound_empty _

theorem sound_modify {antennas : Nat} {t t' : Team} {index : Nat}
    {change : Host → Except TreeError Host} (hok : t.modify index change = .ok t')
    (hid : ∀ host host', change host = .ok host' → host'.id = host.id)
    (hsound : ∀ host host', change host = .ok host' → host.Sound → host'.Sound)
    (h : t.Sound antennas) : t'.Sound antennas := by
  constructor
  · rw [map_modify Host.id hok hid, kind_modify hok]
    exact h.ids
  · obtain ⟨host, host', hhost, hchange, rfl⟩ := modify_eq_ok hok
    have hmem : host ∈ t.hosts := List.mem_of_getElem? hhost
    intro other hother
    rcases List.mem_or_eq_of_mem_set hother with hother | rfl
    · exact h.hosts other hother
    · exact hsound host other hchange (h.hosts host hmem)

variable {antennas : Nat} {t : Team}

theorem Sound.size_eq (h : t.Sound antennas) : t.size = antennas := by
  have hlength := congrArg List.length h.ids
  rw [List.length_map, List.length_map, List.length_range] at hlength
  exact hlength

/-- The hosts of a team are found by their numbers. -/
theorem Sound.host?_eq_some_iff (h : t.Sound antennas) {index : Nat} {host : Host} :
    t.host? index = some host ↔ host ∈ t.hosts ∧ host.id = ⟨t.kind, index⟩ := by
  have hid : ∀ i (hi : i < t.hosts.length), t.hosts[i].id = ⟨t.kind, i⟩ := by
    intro i hi
    have hids := congrArg (fun ids => ids[i]?) h.ids
    have hwithin : i < antennas := h.size_eq ▸ hi
    simpa [hi, hwithin] using hids
  unfold host?
  constructor
  · intro hhost
    obtain ⟨hi, rfl⟩ := List.getElem?_eq_some_iff.1 hhost
    exact ⟨List.getElem_mem hi, hid index hi⟩
  · rintro ⟨hhost, hkey⟩
    obtain ⟨i, hi, rfl⟩ := List.getElem_of_mem hhost
    obtain rfl : i = index := by
      have heq := (hid i hi).symm.trans hkey
      exact congrArg HostId.index heq
    exact List.getElem?_eq_getElem hi

theorem Sound.isSome_host?_iff (h : t.Sound antennas) {index : Nat} :
    (t.host? index).isSome ↔ index < antennas := by
  rw [← h.size_eq]
  simp [host?, size]

end Team

/-! ## Trees -/

namespace SensorTree

variable {t t' : SensorTree}

theorem sound_empty (name : String) (antennas : Nat) : (empty name antennas).Sound := by
  refine ⟨Device.sound_empty name, ?_, ?_⟩
  · simp [empty, Team.empty, channeliserTeam, correlatorTeam]
  · intro team hteam
    simp only [empty, List.mem_cons, List.not_mem_nil, or_false] at hteam
    rcases hteam with rfl | rfl
    · exact Team.sound_empty channeliserTeam antennas
    · exact Team.sound_empty correlatorTeam antennas

theorem sound_ensureTeam (h : t.Sound) (kind : Char) : (t.ensureTeam kind).Sound := by
  refine ⟨h.top, ?_⟩
  apply Keyed.sound_upsert h.teams
  · rfl
  · intro team
    rfl
  · exact Team.sound_empty kind t.antennas
  · intro team _ hteam
    exact hteam

theorem sound_modifyHost {id : HostId} {change : Host → Except TreeError Host} (h : t.Sound)
    (hok : t.modifyTeam id.team (·.modify id.index change) = .ok t')
    (hid : ∀ host host', change host = .ok host' → host'.id = host.id)
    (hsound : ∀ host host', change host = .ok host' → host.Sound → host'.Sound) : t'.Sound := by
  rw [modifyTeam_eq] at hok
  obtain ⟨teams, hteams, rfl⟩ := Keyed.eq_ok_of_map hok
  refine ⟨h.top, ?_⟩
  apply Keyed.sound_update h.teams hteams
  · intro team team'
    exact Team.kind_modify
  · intro team team' hteam
    exact Team.sound_modify hteam hid hsound

theorem sound_modifyHostEnsured {id : HostId} {change : Host → Host} (h : t.Sound)
    (hid : ∀ host, (change host).id = host.id) (hsound : ∀ host, host.Sound → (change host).Sound) :
    (t.modifyTeamEnsured id.team (·.modify id.index fun host => .ok (change host))).1.Sound := by
  have hensured := sound_ensureTeam h id.team
  rcases t.modifyTeamEnsured_cases id.team (·.modify id.index fun host => .ok (change host)) with
    ⟨t', hok, hresult⟩ | ⟨e, -, hresult⟩
  · rw [hresult]
    apply sound_modifyHost hensured hok
    · intro host host' hhost
      obtain rfl := Except.ok.inj hhost
      exact hid host
    · intro host host' hhost
      obtain rfl := Except.ok.inj hhost
      exact hsound host
  · rw [hresult]
    exact hensured

theorem sound_ensure (h : t.Sound) (path : SensorPath) : (t.ensure path).1.Sound := by
  rcases path.array_or_host with ⟨sensor, rfl⟩ | ⟨id, place, rfl⟩
  · exact ⟨Device.sound_ensure h.top sensor, h.teams⟩
  · rw [ensure_path]
    apply sound_modifyHostEnsured h
    · intro host
      exact host.id_ensure place
    · intro host hhost
      exact Host.sound_ensure hhost place

theorem sound_setSerial {id : HostId} {serial : String} (h : t.Sound)
    (hok : t.setSerial id serial = .ok t') : t'.Sound := by
  apply sound_modifyHost h hok
  · intro host host' hhost
    obtain rfl := Except.ok.inj hhost
    rfl
  · intro host host' hhost hs
    obtain rfl := Except.ok.inj hhost
    exact ⟨hs.devices, hs.engines⟩

theorem sound_setInputLabel (h : t.Sound) (index : Nat) (label : String) :
    (t.setInputLabel index label).1.Sound := by
  let id : HostId := ⟨channeliserTeam, index⟩
  have hlabel : t.setInputLabel index label =
      t.modifyTeamEnsured id.team (·.modify id.index fun host => .ok (host.setInputLabel label)) :=
    rfl
  rw [hlabel]
  apply sound_modifyHostEnsured h
  · intro host
    rfl
  · intro host hs
    exact ⟨hs.devices, hs.engines⟩

theorem sound_update {path : SensorPath} (h : t.Sound)
    (hok : t.update path value status now = .ok t') : t'.Sound := by
  rcases path.array_or_host with ⟨sensor, rfl⟩ | ⟨id, place, rfl⟩
  · rw [update_array] at hok
    obtain ⟨top, htop, rfl⟩ := Keyed.eq_ok_of_map hok
    exact ⟨Device.sound_update htop h.top, h.teams⟩
  · rw [update_path] at hok
    apply sound_modifyHost h hok
    · intro host host'
      exact Host.id_update
    · intro host host'
      exact Host.sound_update

/-! ### Where a sensor can be added -/

theorem exists_team?_ensureTeam (t : SensorTree) (kind : Char) :
    ∃ team, (t.ensureTeam kind).team? kind = some team := by
  have hfresh : (Team.empty kind t.antennas).kind = kind := rfl
  have hkeep : ∀ team : Team, (id team).kind = team.kind := fun _ => rfl
  exact ⟨_, Keyed.get?_upsert_self hfresh hkeep t.teams⟩

/-- A sensor of a host can be added where the team has a host of the number, and every team has one
for each antenna, also a team that is only made for it. -/
theorem ensure_eq_ok_iff (h : t.Sound) (path : SensorPath) :
    (t.ensure path).2 = .ok () ↔ path.Within t.antennas := by
  rcases path.array_or_host with ⟨sensor, rfl⟩ | ⟨id, place, rfl⟩
  · exact iff_of_true rfl trivial
  · obtain ⟨team, hteam⟩ := t.exists_team?_ensureTeam id.team
    have hensured := sound_ensureTeam h id.team
    have hsound : team.Sound t.antennas :=
      hensured.teams.each team (Keyed.mem_of_get?_eq_some hteam).1
    have hok : (∃ t', (t.ensureTeam id.team).modifyTeam id.team
        (·.modify id.index fun host => .ok (host.ensure place)) = .ok t') ↔
          id.index < t.antennas := by
      unfold team? at hteam
      rw [modifyTeam_eq, Keyed.exists_ok_map, Keyed.exists_ok_update, hteam]
      simp [Team.exists_ok_modify, ← hsound.isSome_host?_iff, Option.isSome_iff_exists]
    rw [ensure_path, SensorPath.within_path, ← hok]
    rcases t.modifyTeamEnsured_cases id.team
        (·.modify id.index fun host => .ok (host.ensure place)) with
      ⟨t', hdone, hresult⟩ | ⟨e, hfailed, hresult⟩
    · rw [hresult]
      exact iff_of_true rfl ⟨t', hdone⟩
    · rw [hresult, hfailed]
      simp

/-! ### What is in a tree -/

/-- The hosts of a tree are found by their identities. -/
theorem Sound.host?_eq_some_iff (h : t.Sound) {id : HostId} {host : Host} :
    t.host? id = some host ↔ ∃ team ∈ t.teams, host ∈ team.hosts ∧ host.id = id := by
  unfold host? team?
  simp only [Option.bind_eq_some_iff, Keyed.Sound.get?_eq_some_iff h.teams, and_assoc]
  constructor
  · rintro ⟨team, hteam, hkind, hhost⟩
    obtain ⟨hmem, hid⟩ := (h.teams.each team hteam).host?_eq_some_iff.1 hhost
    exact ⟨team, hteam, hmem, by rw [hid, hkind]⟩
  · rintro ⟨team, hteam, hmem, rfl⟩
    obtain ⟨i, hi⟩ : ∃ i, host.id = ⟨team.kind, i⟩ := by
      have hid := List.mem_map_of_mem (f := Host.id) hmem
      rw [(h.teams.each team hteam).ids] at hid
      obtain ⟨i, -, hi⟩ := List.mem_map.1 hid
      exact ⟨i, hi.symm⟩
    refine ⟨team, hteam, by rw [hi], ?_⟩
    exact (h.teams.each team hteam).host?_eq_some_iff.2 ⟨hmem, by rw [hi]⟩

theorem sensor?_path_eq_bind (t : SensorTree) (id : HostId) (place : HostPlace) :
    t.sensor? (place.path id) = (t.host? id).bind (·.sensor? place) := by
  cases place <;> rfl

/-- The lookup finds the sensors of the tree, no fewer and no others. -/
theorem mem_entries_iff (h : t.Sound) {path : SensorPath} {s : Sensor} :
    (path, s) ∈ t.entries ↔ t.sensor? path = some s := by
  unfold entries
  simp only [List.mem_append, List.mem_flatMap, List.mem_map]
  -- a place is among the sensors of the array itself or among those of the hosts, never among both
  rcases path.array_or_host with ⟨sensor, rfl⟩ | ⟨id, place, rfl⟩
  · have htop : t.sensor? (.array sensor) = some s ↔ s ∈ t.top.sensors ∧ s.name = sensor :=
      Device.Sound.sensor?_eq_some_iff h.top
    rw [htop]
    simp only [Host.array_not_mem_entries, and_false, exists_false, or_false, Prod.mk.injEq,
      SensorPath.array.injEq]
    constructor
    · rintro ⟨s', hs', hsensor, rfl⟩
      exact ⟨hs', hsensor⟩
    · rintro ⟨hmem, hsensor⟩
      exact ⟨s, hmem, hsensor, rfl⟩
  · rw [sensor?_path_eq_bind, Option.bind_eq_some_iff]
    simp only [h.host?_eq_some_iff, Prod.mk.injEq, SensorPath.array_ne_path, false_and, and_false,
      exists_false, false_or]
    constructor
    · rintro ⟨team, hteam, host, hhost, hentry⟩
      have hs := (h.teams.each team hteam).hosts host hhost
      obtain ⟨hid, hfound⟩ := hs.mem_entries_iff.1 hentry
      exact ⟨host, ⟨team, hteam, hhost, hid⟩, hfound⟩
    · rintro ⟨host, ⟨team, hteam, hhost, hid⟩, hfound⟩
      have hs := (h.teams.each team hteam).hosts host hhost
      exact ⟨team, hteam, host, hhost, hs.mem_entries_iff.2 ⟨hid, hfound⟩⟩

end SensorTree

end ArrayWatch
