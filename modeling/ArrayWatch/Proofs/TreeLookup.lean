import ArrayWatch.Proofs.KeyedTables
import ArrayWatch.SensorTree.Informed

/-!
# What a change of the sensor tree does to a lookup

`SensorTree.sensor?` goes through teams, hosts, engines and devices, and takes the first that fits
at every level. So does every change, so that the lookup sees the change at the place that was meant
and nowhere else: not at a device of the same name on another host or engine, and not at a second
sensor of the same name.

* `SensorTree.altersAt_update`, `SensorTree.exists_ok_update`: a reading goes to the sensor at its
  place, and there has to be one.
* `SensorTree.ensure_cases`: a sensor that is made sure of is there and was not touched, or the host
  is missing and no lookup has changed.
* `SensorTree.sensor?_setSerial`, `SensorTree.sensor?_setInputLabel`: serials and labels change no
  sensor.
-/

namespace ArrayWatch

open Keyed (AltersAt through)

/-- What a lookup finds where a sensor is made sure of. -/
def present (sensor : String) (found : Option Sensor) : Option Sensor :=
  some (found.getD (.fresh sensor))

/-- What a lookup finds where a reading arrives. -/
def renewed (value status : String) (now : Timestamp) (found : Option Sensor) : Option Sensor :=
  found.map (·.update value status now)

variable {value status : String} {now : Timestamp}

/-! ## Devices -/

namespace Device

theorem altersAt_ensure (d : Device) (sensor : String) :
    AltersAt sensor (present sensor) d.sensor? (d.ensure sensor).sensor? := by
  intro other
  have hfresh : (Sensor.fresh sensor).name = sensor := rfl
  have hkeep : ∀ s : Sensor, (id s).name = s.name := fun _ => rfl
  unfold sensor? ensure
  dsimp only
  rw [Keyed.get?_upsert hfresh hkeep]
  split
  · rename_i hname
    subst hname
    rfl
  · rfl

theorem update_eq (d : Device) (sensor value status : String) (now : Timestamp) :
    d.update sensor value status now =
      (Keyed.update Sensor.name sensor (.noSensor sensor d.name)
        (fun s => .ok (s.update value status now)) d.sensors).map
          fun sensors => { d with sensors } :=
  Keyed.bind_return _ _

theorem altersAt_update {d d' : Device} {sensor : String}
    (h : d.update sensor value status now = .ok d') :
    AltersAt sensor (renewed value status now) d.sensor? d'.sensor? := by
  rw [update_eq] at h
  obtain ⟨sensors, hsensors, rfl⟩ := Keyed.eq_ok_of_map h
  obtain ⟨s, s', hfound, hs', hother⟩ := Keyed.get?_update hsensors fun s s' hs' => by
    obtain rfl := Except.ok.inj hs'
    rfl
  obtain rfl := Except.ok.inj hs'
  intro other
  unfold sensor?
  rw [hother]
  split
  · rename_i hname
    rw [hname, hfound]
    rfl
  · rfl

theorem exists_ok_update {d : Device} {sensor : String} :
    (∃ d', d.update sensor value status now = .ok d') ↔ (d.sensor? sensor).isSome := by
  rw [update_eq, Keyed.exists_ok_map, Keyed.exists_ok_update]
  simp [sensor?, Option.isSome_iff_exists]

theorem name_update {d d' : Device} {sensor : String}
    (h : d.update sensor value status now = .ok d') : d'.name = d.name := by
  rw [update_eq] at h
  obtain ⟨sensors, -, rfl⟩ := Keyed.eq_ok_of_map h
  rfl

end Device

/-! ## Groups of devices, and engines -/

namespace Devices

/-- The sensor of a name on the device of a name. -/
def sensor? (devices : List Device) : String × String → Option Sensor :=
  through Device.name Device.sensor? devices

theorem altersAt_ensure (devices : List Device) (device sensor : String) :
    AltersAt (device, sensor) (present sensor) (sensor? devices)
      (sensor? (ensure devices device sensor)) := by
  apply Keyed.altersAt_upsert
  · rfl
  · intro d
    exact d.altersAt_ensure sensor
  · intro inner
    rfl
  · intro d
    rfl

theorem altersAt_update {devices devices' : List Device} {device sensor : String}
    (h : update devices device sensor value status now = .ok devices') :
    AltersAt (device, sensor) (renewed value status now) (sensor? devices) (sensor? devices') :=
  Keyed.altersAt_update h (fun _ _ => Device.name_update) fun _ _ => Device.altersAt_update

theorem exists_ok_update {devices : List Device} {device sensor : String} :
    (∃ devices', update devices device sensor value status now = .ok devices') ↔
      (sensor? devices (device, sensor)).isSome :=
  Keyed.exists_ok_update_through fun _ => Device.exists_ok_update

end Devices

namespace Engine

def sensor? (e : Engine) : String × String → Option Sensor := Devices.sensor? e.devices

theorem altersAt_ensure (e : Engine) (device sensor : String) :
    AltersAt (device, sensor) (present sensor) e.sensor? (e.ensure device sensor).sensor? :=
  Devices.altersAt_ensure e.devices device sensor

theorem update_eq (e : Engine) (device sensor value status : String) (now : Timestamp) :
    e.update device sensor value status now =
      (Devices.update e.devices device sensor value status now).map
        fun devices => { e with devices } :=
  Keyed.bind_return _ _

theorem altersAt_update {e e' : Engine} {device sensor : String}
    (h : e.update device sensor value status now = .ok e') :
    AltersAt (device, sensor) (renewed value status now) e.sensor? e'.sensor? := by
  rw [update_eq] at h
  obtain ⟨devices, hdevices, rfl⟩ := Keyed.eq_ok_of_map h
  exact Devices.altersAt_update hdevices

theorem exists_ok_update {e : Engine} {device sensor : String} :
    (∃ e', e.update device sensor value status now = .ok e') ↔
      (e.sensor? (device, sensor)).isSome := by
  rw [update_eq, Keyed.exists_ok_map]
  exact Devices.exists_ok_update

theorem name_update {e e' : Engine} {device sensor : String}
    (h : e.update device sensor value status now = .ok e') : e'.name = e.name := by
  rw [update_eq] at h
  obtain ⟨devices, -, rfl⟩ := Keyed.eq_ok_of_map h
  rfl

end Engine

/-! ## Hosts -/

/-- Where a sensor is on a host. -/
inductive HostPlace where
  | device (device sensor : String)
  | engine (engine device sensor : String)
  deriving DecidableEq, Repr

namespace HostPlace

def sensor : HostPlace → String
  | device _ sensor | engine _ _ sensor => sensor

def path (id : HostId) : HostPlace → SensorPath
  | device d sensor => .host id d sensor
  | engine e d sensor => .engine id e d sensor

theorem path_eq_iff {id id' : HostId} {place place' : HostPlace} :
    place.path id = place'.path id' ↔ id = id' ∧ place = place' := by
  cases place <;> cases place' <;> simp [path]

end HostPlace

namespace Host

def sensor? (h : Host) : HostPlace → Option Sensor
  | .device d sensor => Devices.sensor? h.devices (d, sensor)
  | .engine e d sensor => through Engine.name Engine.sensor? h.engines (e, d, sensor)

def ensure (h : Host) : HostPlace → Host
  | .device d sensor => h.ensureDevice d sensor
  | .engine e d sensor => h.ensureEngine e d sensor

def update (h : Host) (value status : String) (now : Timestamp) :
    HostPlace → Except TreeError Host
  | .device d sensor => h.updateDevice d sensor value status now
  | .engine e d sensor => h.updateEngine e d sensor value status now

/-- A change of the devices of a host, seen from the host. -/
theorem altersAt_devices {h : Host} {devices : List Device} {d sensor : String}
    {g : Option Sensor → Option Sensor}
    (hdevices : AltersAt (d, sensor) g (Devices.sensor? h.devices) (Devices.sensor? devices)) :
    AltersAt (.device d sensor) g h.sensor? { h with devices }.sensor? := by
  intro other
  cases other with
  | device d' sensor' => simpa [sensor?] using hdevices (d', sensor')
  | engine e' d' sensor' => rfl

/-- A change of the engines of a host, seen from the host. -/
theorem altersAt_engines {h : Host} {engines : List Engine}
    {virtualDevices : List VirtualDevice} {e d sensor : String}
    {g : Option Sensor → Option Sensor}
    (hengines : AltersAt (e, d, sensor) g (through Engine.name Engine.sensor? h.engines)
      (through Engine.name Engine.sensor? engines)) :
    AltersAt (.engine e d sensor) g h.sensor? { h with engines, virtualDevices }.sensor? := by
  intro other
  cases other with
  | device d' sensor' => rfl
  | engine e' d' sensor' => simpa [sensor?] using hengines (e', d', sensor')

theorem altersAt_ensure (h : Host) (place : HostPlace) :
    AltersAt place (present place.sensor) h.sensor? (h.ensure place).sensor? := by
  cases place with
  | device d sensor => exact altersAt_devices (Devices.altersAt_ensure h.devices d sensor)
  | engine e d sensor =>
    apply altersAt_engines
    apply Keyed.altersAt_upsert
    · rfl
    · intro e
      exact e.altersAt_ensure d sensor
    · intro inner
      rfl
    · intro e
      rfl

theorem updateDevice_eq (h : Host) (device sensor value status : String) (now : Timestamp) :
    h.updateDevice device sensor value status now =
      (Devices.update h.devices device sensor value status now).map
        fun devices => { h with devices } :=
  Keyed.bind_return _ _

theorem updateEngine_eq (h : Host) (engine device sensor value status : String)
    (now : Timestamp) :
    h.updateEngine engine device sensor value status now =
      (Keyed.update Engine.name engine (.noEngine engine h.id)
        (·.update device sensor value status now) h.engines).map
          fun engines => { h with engines } :=
  Keyed.bind_return _ _

theorem altersAt_update {h h' : Host} {place : HostPlace}
    (hok : h.update value status now place = .ok h') :
    AltersAt place (renewed value status now) h.sensor? h'.sensor? := by
  cases place with
  | device d sensor =>
    rw [update, updateDevice_eq] at hok
    obtain ⟨devices, hdevices, rfl⟩ := Keyed.eq_ok_of_map hok
    exact altersAt_devices (Devices.altersAt_update hdevices)
  | engine e d sensor =>
    rw [update, updateEngine_eq] at hok
    obtain ⟨engines, hengines, rfl⟩ := Keyed.eq_ok_of_map hok
    exact altersAt_engines (Keyed.altersAt_update hengines (fun _ _ => Engine.name_update)
      fun _ _ => Engine.altersAt_update)

theorem exists_ok_update {h : Host} {place : HostPlace} :
    (∃ h', h.update value status now place = .ok h') ↔ (h.sensor? place).isSome := by
  cases place with
  | device d sensor =>
    rw [update, updateDevice_eq, Keyed.exists_ok_map]
    exact Devices.exists_ok_update
  | engine e d sensor =>
    rw [update, updateEngine_eq, Keyed.exists_ok_map]
    exact Keyed.exists_ok_update_through fun _ => Engine.exists_ok_update

end Host

/-! ## Teams -/

namespace Team

/-- The sensor at a place of the host of a number. -/
def sensor? (t : Team) (place : Nat × HostPlace) : Option Sensor :=
  (t.host? place.1).bind (·.sensor? place.2)

section Modify

variable {t t' : Team} {index : Nat} {change : Host → Except TreeError Host}

theorem modify_eq_ok (h : t.modify index change = .ok t') :
    ∃ host host', t.host? index = some host ∧ change host = .ok host' ∧
      t' = { t with hosts := t.hosts.set index host' } := by
  unfold modify at h
  split at h
  · rename_i host hhost
    obtain ⟨host', hchange, rfl⟩ := Keyed.eq_ok_of_map h
    exact ⟨host, host', hhost, hchange, rfl⟩
  · contradiction

theorem exists_ok_modify :
    (∃ t', t.modify index change = .ok t') ↔
      ∃ host, t.host? index = some host ∧ ∃ host', change host = .ok host' := by
  unfold modify
  cases t.host? index with
  | none => simp
  | some host => simp [Keyed.exists_ok_map]

theorem kind_modify (h : t.modify index change = .ok t') : t'.kind = t.kind := by
  obtain ⟨host, host', -, -, rfl⟩ := modify_eq_ok h
  rfl

theorem host?_modify (h : t.modify index change = .ok t') :
    ∃ host host', t.host? index = some host ∧ change host = .ok host' ∧
      ∀ other, t'.host? other = if other = index then some host' else t.host? other := by
  obtain ⟨host, host', hhost, hchange, rfl⟩ := modify_eq_ok h
  refine ⟨host, host', hhost, hchange, ?_⟩
  intro other
  have hlt : index < t.hosts.length := by
    unfold host? at hhost
    exact (List.getElem?_eq_some_iff.1 hhost).1
  unfold host?
  dsimp only
  rw [List.getElem?_set]
  by_cases hother : other = index
  · subst hother
    simp [hlt]
  · simp [hother, Ne.symm hother]

theorem map_modify {α : Type} (f : Host → α) (h : t.modify index change = .ok t')
    (hf : ∀ host host', change host = .ok host' → f host' = f host) :
    t'.hosts.map f = t.hosts.map f := by
  obtain ⟨host, host', hhost, hchange, rfl⟩ := modify_eq_ok h
  obtain ⟨hlt, rfl⟩ := List.getElem?_eq_some_iff.1 hhost
  have hlt' : index < (t.hosts.map f).length := by simpa using hlt
  have hsame : f host' = (t.hosts.map f)[index] := by
    rw [List.getElem_map]
    exact hf _ host' hchange
  show (t.hosts.set index host').map f = t.hosts.map f
  rw [List.map_set, hsame, List.set_getElem_self]

theorem altersAt_modify {place : HostPlace} {g : Option Sensor → Option Sensor}
    (h : t.modify index change = .ok t')
    (hchange : ∀ host host', change host = .ok host' →
      AltersAt place g host.sensor? host'.sensor?) :
    AltersAt (index, place) g t.sensor? t'.sensor? := by
  obtain ⟨host, host', hhost, hok, hother⟩ := host?_modify h
  intro (other, inner)
  unfold sensor?
  dsimp only
  rw [hother]
  by_cases hindex : other = index
  · subst hindex
    rw [if_pos rfl, hhost]
    simpa using hchange host host' hok inner
  · simp [hindex]

end Modify

theorem sensor?_empty (kind : Char) (size : Nat) (place : Nat × HostPlace) :
    (empty kind size).sensor? place = none := by
  obtain ⟨index, place⟩ := place
  unfold sensor? host? empty
  dsimp only
  rw [List.getElem?_map]
  cases (List.range size)[index]? with
  | none => rfl
  | some i => cases place <;> rfl

end Team

/-! ## Trees -/

namespace SensorPath

def sensor : SensorPath → String
  | array sensor | host _ _ sensor | engine _ _ _ sensor => sensor

theorem sensor_path (id : HostId) (place : HostPlace) : (place.path id).sensor = place.sensor := by
  cases place <;> rfl

theorem array_or_host (path : SensorPath) :
    (∃ sensor, path = .array sensor) ∨ ∃ id place, path = HostPlace.path id place := by
  cases path with
  | array sensor => exact .inl ⟨sensor, rfl⟩
  | host id d sensor => exact .inr ⟨id, .device d sensor, rfl⟩
  | engine id e d sensor => exact .inr ⟨id, .engine e d sensor, rfl⟩

theorem array_ne_path (sensor : String) (id : HostId) (place : HostPlace) :
    SensorPath.array sensor ≠ place.path id := by
  cases place <;> nofun

end SensorPath

namespace SensorTree

variable {t t' : SensorTree}

theorem sensor?_path (t : SensorTree) (id : HostId) (place : HostPlace) :
    t.sensor? (place.path id) =
      through Team.kind Team.sensor? t.teams (id.team, id.index, place) := by
  cases place <;> exact Option.bind_assoc ..

/-- A change of the teams, seen from the tree. -/
theorem altersAt_teams {teams : List Team} {id : HostId} {place : HostPlace}
    {g : Option Sensor → Option Sensor}
    (hteams : AltersAt (id.team, id.index, place) g (through Team.kind Team.sensor? t.teams)
      (through Team.kind Team.sensor? teams)) :
    AltersAt (place.path id) g t.sensor? { t with teams }.sensor? := by
  intro other
  rcases other.array_or_host with ⟨sensor, rfl⟩ | ⟨id', place', rfl⟩
  · rw [if_neg (SensorPath.array_ne_path sensor id place)]
    rfl
  · have hplace : place'.path id' = place.path id ↔
        (id'.team, id'.index, place') = (id.team, id.index, place) := by
      obtain ⟨team, index⟩ := id
      obtain ⟨team', index'⟩ := id'
      simp [HostPlace.path_eq_iff, and_assoc]
    rw [sensor?_path, sensor?_path, hteams]
    simp only [hplace]

/-- There is no sensor in a tree that was just made. -/
theorem sensor?_empty (name : String) (antennas : Nat) (path : SensorPath) :
    (empty name antennas).sensor? path = none := by
  rcases path.array_or_host with ⟨sensor, rfl⟩ | ⟨id, place, rfl⟩
  · rfl
  · rw [sensor?_path]
    unfold through
    cases hteam : Keyed.get? Team.kind id.team (empty name antennas).teams with
    | none => rfl
    | some team =>
      have hmem := (Keyed.mem_of_get?_eq_some hteam).1
      simp only [empty, List.mem_cons, List.not_mem_nil, or_false] at hmem
      rcases hmem with rfl | rfl
      · exact Team.sensor?_empty channeliserTeam antennas (id.index, place)
      · exact Team.sensor?_empty correlatorTeam antennas (id.index, place)

theorem modifyTeam_eq (t : SensorTree) (kind : Char) (change : Team → Except TreeError Team) :
    t.modifyTeam kind change =
      (Keyed.update Team.kind kind (.unknownTeam kind) change t.teams).map
        fun teams => { t with teams } :=
  Keyed.bind_return _ _

/-! ### Changes of one host -/

section Host

variable {id : HostId} {change : Host → Except TreeError Host}

theorem altersAt_modifyHost {place : HostPlace} {g : Option Sensor → Option Sensor}
    (h : t.modifyTeam id.team (·.modify id.index change) = .ok t')
    (hchange : ∀ host host', change host = .ok host' →
      AltersAt place g host.sensor? host'.sensor?) :
    AltersAt (place.path id) g t.sensor? t'.sensor? := by
  rw [modifyTeam_eq] at h
  obtain ⟨teams, hteams, rfl⟩ := Keyed.eq_ok_of_map h
  apply altersAt_teams
  apply Keyed.altersAt_update hteams
  · intro team team'
    exact Team.kind_modify
  · intro team team' hteam
    exact Team.altersAt_modify hteam hchange

/-- A change that no lookup on the host sees is seen by no lookup in the tree. -/
theorem sensor?_modifyHost (h : t.modifyTeam id.team (·.modify id.index change) = .ok t')
    (hchange : ∀ host host', change host = .ok host' → host'.sensor? = host.sensor?) :
    t'.sensor? = t.sensor? := by
  -- any place is altered to what it was
  let place : HostPlace := .device "" ""
  have hsame : AltersAt (place.path id) (fun found => found) t.sensor? t'.sensor? :=
    altersAt_modifyHost h fun host host' hhost =>
      (Keyed.altersAt_id_iff place).2 (hchange host host' hhost)
  exact (Keyed.altersAt_id_iff _).1 hsame

theorem exists_ok_modifyHost {place : HostPlace}
    (hchange : ∀ host, (∃ host', change host = .ok host') ↔ (host.sensor? place).isSome) :
    (∃ t', t.modifyTeam id.team (·.modify id.index change) = .ok t') ↔
      (t.sensor? (place.path id)).isSome := by
  rw [modifyTeam_eq, Keyed.exists_ok_map, sensor?_path]
  apply Keyed.exists_ok_update_through
  intro team
  rw [Team.exists_ok_modify]
  unfold Team.sensor?
  cases team.host? id.index with
  | none => simp
  | some host => simp [hchange]

end Host

/-! ### Readings -/

theorem update_path (t : SensorTree) (id : HostId) (place : HostPlace) (value status : String)
    (now : Timestamp) :
    t.update (place.path id) value status now =
      t.modifyTeam id.team (·.modify id.index (·.update value status now place)) := by
  cases place <;> rfl

theorem update_array (t : SensorTree) (sensor value status : String) (now : Timestamp) :
    t.update (.array sensor) value status now =
      (t.top.update sensor value status now).map fun top => { t with top } :=
  Keyed.bind_return _ _

/-- A change of the top device, seen from the tree. -/
theorem altersAt_top {top : Device} {sensor : String} {g : Option Sensor → Option Sensor}
    (htop : AltersAt sensor g t.top.sensor? top.sensor?) :
    AltersAt (.array sensor) g t.sensor? { t with top }.sensor? := by
  intro other
  cases other with
  | array sensor' => simpa [sensor?] using htop sensor'
  | host id d sensor' => rfl
  | engine id e d sensor' => rfl

/-- A reading is seen at its place and nowhere else. -/
theorem altersAt_update {path : SensorPath} (h : t.update path value status now = .ok t') :
    AltersAt path (renewed value status now) t.sensor? t'.sensor? := by
  rcases path.array_or_host with ⟨sensor, rfl⟩ | ⟨id, place, rfl⟩
  · rw [update_array] at h
    obtain ⟨top, htop, rfl⟩ := Keyed.eq_ok_of_map h
    exact altersAt_top (Device.altersAt_update htop)
  · rw [update_path] at h
    exact altersAt_modifyHost h fun _ _ => Host.altersAt_update

/-- A reading is taken where there is a sensor for it. -/
theorem exists_ok_update {path : SensorPath} :
    (∃ t', t.update path value status now = .ok t') ↔ (t.sensor? path).isSome := by
  rcases path.array_or_host with ⟨sensor, rfl⟩ | ⟨id, place, rfl⟩
  · rw [update_array, Keyed.exists_ok_map]
    exact Device.exists_ok_update
  · rw [update_path]
    exact exists_ok_modifyHost fun _ => Host.exists_ok_update

theorem isSome_sensor?_update {path : SensorPath} (h : t.update path value status now = .ok t')
    (other : SensorPath) : (t'.sensor? other).isSome = (t.sensor? other).isSome := by
  rw [altersAt_update h other]
  split
  · exact Option.isSome_map
  · rfl

/-! ### New sensors -/

theorem sensor?_ensureTeam (t : SensorTree) (kind : Char) :
    (t.ensureTeam kind).sensor? = t.sensor? := by
  funext path
  rcases path.array_or_host with ⟨sensor, rfl⟩ | ⟨id, place, rfl⟩
  · rfl
  · rw [sensor?_path, sensor?_path]
    unfold ensureTeam
    dsimp only
    rw [Keyed.through_upsert_id]
    · rfl
    · exact Team.sensor?_empty kind t.antennas

theorem modifyTeamEnsured_cases (t : SensorTree) (kind : Char)
    (change : Team → Except TreeError Team) :
    (∃ t', (t.ensureTeam kind).modifyTeam kind change = .ok t' ∧
        t.modifyTeamEnsured kind change = (t', .ok ())) ∨
      ∃ e, (t.ensureTeam kind).modifyTeam kind change = .error e ∧
        t.modifyTeamEnsured kind change = (t.ensureTeam kind, .error e) := by
  unfold modifyTeamEnsured
  dsimp only
  cases hresult : (t.ensureTeam kind).modifyTeam kind change with
  | ok t' => exact .inl ⟨t', rfl, rfl⟩
  | error e => exact .inr ⟨e, rfl, rfl⟩

theorem ensure_path (t : SensorTree) (id : HostId) (place : HostPlace) :
    t.ensure (place.path id) =
      t.modifyTeamEnsured id.team (·.modify id.index fun host => .ok (host.ensure place)) := by
  cases place <;> rfl

/-- A sensor is there after it was made sure of, as it was if it was there before. Where that fails,
there is no sensor more or less. -/
theorem ensure_cases (t : SensorTree) (path : SensorPath) :
    (t.ensure path).2 = .ok () ∧
        AltersAt path (present path.sensor) t.sensor? (t.ensure path).1.sensor? ∨
      (∃ e, (t.ensure path).2 = .error e) ∧ (t.ensure path).1.sensor? = t.sensor? := by
  rcases path.array_or_host with ⟨sensor, rfl⟩ | ⟨id, place, rfl⟩
  · exact .inl ⟨rfl, altersAt_top (t.top.altersAt_ensure sensor)⟩
  · rw [ensure_path, SensorPath.sensor_path]
    rcases t.modifyTeamEnsured_cases id.team
        (·.modify id.index fun host => .ok (host.ensure place)) with
      ⟨t', hok, hresult⟩ | ⟨e, -, hresult⟩
    · rw [hresult, ← sensor?_ensureTeam t id.team]
      refine .inl ⟨rfl, altersAt_modifyHost hok ?_⟩
      intro host host' hhost
      obtain rfl := Except.ok.inj hhost
      exact host.altersAt_ensure place
    · rw [hresult]
      exact .inr ⟨⟨e, rfl⟩, sensor?_ensureTeam t id.team⟩

/-! ### Other informs -/

theorem sensor?_setSerial {id : HostId} {serial : String} (h : t.setSerial id serial = .ok t') :
    t'.sensor? = t.sensor? := by
  apply sensor?_modifyHost h
  intro host host' hhost
  obtain rfl := Except.ok.inj hhost
  funext place
  cases place <;> rfl

theorem sensor?_setInputLabel (t : SensorTree) (index : Nat) (label : String) :
    (t.setInputLabel index label).1.sensor? = t.sensor? := by
  unfold setInputLabel
  rcases t.modifyTeamEnsured_cases channeliserTeam (·.setInputLabel index label) with
    ⟨t', hok, hresult⟩ | ⟨e, -, hresult⟩
  · let id : HostId := ⟨channeliserTeam, index⟩
    have hid : (t.ensureTeam channeliserTeam).modifyTeam id.team
        (·.modify id.index fun host => .ok (host.setInputLabel label)) = .ok t' := hok
    rw [hresult, ← sensor?_ensureTeam t channeliserTeam]
    apply sensor?_modifyHost hid
    intro host host' hhost
    obtain rfl := Except.ok.inj hhost
    funext place
    cases place <;> rfl
  · rw [hresult]
    exact sensor?_ensureTeam t channeliserTeam

end SensorTree

end ArrayWatch
