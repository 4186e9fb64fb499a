import ArrayWatch.Proofs.TreeShape
import Mathlib.Logic.Relation

/-!
# Changes of the sensor tree without a reading

A tree changes by readings, and by what does not read a sensor: sensors are added, hosts get their
serials and the labels of their inputs. The changes of the second kind leave every sensor that is
there as it is, in whatever order they come. Readings and serials on the other hand leave the tree
as it is but for the words that they bring.

* `SensorTree.Quiet`: some changes of the second kind, one after the other.
* `SensorTree.Quiet.sensor?`: a sensor stays as it is, and one that is new has not reported.
* `SensorTree.unread_update`, `SensorTree.unread_setSerial`: a reading or a serial adds and removes
  nothing.
-/

namespace ArrayWatch

/-! ## Trees without what they were told -/

def Device.unread (d : Device) : Device :=
  { d with sensors := d.sensors.map fun s => .fresh s.name }

def Engine.unread (e : Engine) : Engine := { e with devices := e.devices.map Device.unread }

def Host.unread (h : Host) : Host :=
  { h with
    serial := unknownSerial
    inputStream := ""
    devices := h.devices.map Device.unread
    engines := h.engines.map Engine.unread }

def Team.unread (t : Team) : Team := { t with hosts := t.hosts.map Host.unread }

/-- The teams, hosts, engines, devices and sensors of a tree, and nothing that came from informs. -/
def SensorTree.unread (t : SensorTree) : SensorTree :=
  { t with top := t.top.unread, teams := t.teams.map Team.unread }

variable {value status : String} {now : Timestamp}

theorem Device.unread_update {d d' : Device} {sensor : String}
    (h : d.update sensor value status now = .ok d') : d'.unread = d.unread := by
  rw [update_eq] at h
  obtain ⟨sensors, hsensors, rfl⟩ := Keyed.eq_ok_of_map h
  have hmap : sensors.map (fun s => Sensor.fresh s.name) =
      d.sensors.map fun s => Sensor.fresh s.name := by
    apply Keyed.map_update _ hsensors
    intro s s' hs
    obtain rfl := Except.ok.inj hs
    rfl
  unfold unread
  rw [hmap]

theorem Devices.unread_update {devices devices' : List Device} {device sensor : String}
    (h : update devices device sensor value status now = .ok devices') :
    devices'.map Device.unread = devices.map Device.unread := by
  apply Keyed.map_update _ h
  intro d d'
  exact Device.unread_update

theorem Engine.unread_update {e e' : Engine} {device sensor : String}
    (h : e.update device sensor value status now = .ok e') : e'.unread = e.unread := by
  rw [update_eq] at h
  obtain ⟨devices, hdevices, rfl⟩ := Keyed.eq_ok_of_map h
  unfold unread
  rw [Devices.unread_update hdevices]

theorem Host.unread_update {h h' : Host} {place : HostPlace}
    (hok : h.update value status now place = .ok h') : h'.unread = h.unread := by
  cases place with
  | device d sensor =>
    rw [update, updateDevice_eq] at hok
    obtain ⟨devices, hdevices, rfl⟩ := Keyed.eq_ok_of_map hok
    unfold unread
    rw [Devices.unread_update hdevices]
  | engine e d sensor =>
    rw [update, updateEngine_eq] at hok
    obtain ⟨engines, hengines, rfl⟩ := Keyed.eq_ok_of_map hok
    have hmap : engines.map Engine.unread = h.engines.map Engine.unread := by
      apply Keyed.map_update _ hengines
      intro e e'
      exact Engine.unread_update
    unfold unread
    rw [hmap]

theorem Team.unread_modify {t t' : Team} {index : Nat} {change : Host → Except TreeError Host}
    (hok : t.modify index change = .ok t')
    (hchange : ∀ host host', change host = .ok host' → host'.unread = host.unread) :
    t'.unread = t.unread := by
  have hkind := kind_modify hok
  have hhosts := map_modify Host.unread hok hchange
  unfold unread
  rw [hkind, hhosts]

namespace SensorTree

variable {t t' t'' : SensorTree}

theorem unread_modifyHost {id : HostId} {change : Host → Except TreeError Host}
    (hok : t.modifyTeam id.team (·.modify id.index change) = .ok t')
    (hchange : ∀ host host', change host = .ok host' → host'.unread = host.unread) :
    t'.unread = t.unread := by
  rw [modifyTeam_eq] at hok
  obtain ⟨teams, hteams, rfl⟩ := Keyed.eq_ok_of_map hok
  have hmap : teams.map Team.unread = t.teams.map Team.unread := by
    apply Keyed.map_update _ hteams
    intro team team' hteam
    exact Team.unread_modify hteam hchange
  unfold unread
  rw [hmap]

theorem unread_update {path : SensorPath} (hok : t.update path value status now = .ok t') :
    t'.unread = t.unread := by
  rcases path.array_or_host with ⟨sensor, rfl⟩ | ⟨id, place, rfl⟩
  · rw [update_array] at hok
    obtain ⟨top, htop, rfl⟩ := Keyed.eq_ok_of_map hok
    unfold unread
    rw [Device.unread_update htop]
  · rw [update_path] at hok
    apply unread_modifyHost hok
    intro host host'
    exact Host.unread_update

theorem unread_setSerial {id : HostId} {serial : String}
    (hok : t.setSerial id serial = .ok t') : t'.unread = t.unread := by
  apply unread_modifyHost hok
  intro host host' hhost
  obtain rfl := Except.ok.inj hhost
  rfl

theorem antennas_eq_of_unread (h : t'.unread = t.unread) : t'.antennas = t.antennas := by
  have hfield : t'.unread.antennas = t.unread.antennas := by rw [h]
  exact hfield

/-! ## Quiet changes -/

/-- A change that reads no sensor. -/
inductive QuietStep : SensorTree → SensorTree → Prop
  | ensure (t : SensorTree) (path : SensorPath) : QuietStep t (t.ensure path).1
  | serial {t t' : SensorTree} {id : HostId} {serial : String}
      (h : t.setSerial id serial = .ok t') : QuietStep t t'
  | label (t : SensorTree) (index : Nat) (label : String) :
      QuietStep t (t.setInputLabel index label).1

/-- Some changes that read no sensor, one after the other. -/
def Quiet : SensorTree → SensorTree → Prop := Relation.ReflTransGen QuietStep

theorem antennas_modifyTeamEnsured (t : SensorTree) (kind : Char)
    (change : Team → Except TreeError Team) :
    (t.modifyTeamEnsured kind change).1.antennas = t.antennas := by
  rcases t.modifyTeamEnsured_cases kind change with ⟨t', hok, hresult⟩ | ⟨e, -, hresult⟩
  · rw [modifyTeam_eq] at hok
    obtain ⟨teams, -, rfl⟩ := Keyed.eq_ok_of_map hok
    rw [hresult]
    rfl
  · rw [hresult]
    rfl

theorem antennas_ensure (t : SensorTree) (path : SensorPath) :
    (t.ensure path).1.antennas = t.antennas := by
  rcases path.array_or_host with ⟨sensor, rfl⟩ | ⟨id, place, rfl⟩
  · rfl
  · rw [ensure_path]
    exact t.antennas_modifyTeamEnsured _ _

theorem QuietStep.antennas (h : QuietStep t t') : t'.antennas = t.antennas := by
  cases h with
  | ensure path => exact t.antennas_ensure path
  | serial hok => exact antennas_eq_of_unread (unread_setSerial hok)
  | label index label => exact t.antennas_modifyTeamEnsured _ _

theorem QuietStep.sound (h : QuietStep t t') (hs : t.Sound) : t'.Sound := by
  cases h with
  | ensure path => exact sound_ensure hs path
  | serial hok => exact sound_setSerial hs hok
  | label index label => exact sound_setInputLabel hs index label

theorem sensor?_ensure (t : SensorTree) (path other : SensorPath) :
    (t.ensure path).1.sensor? other = t.sensor? other ∨
      t.sensor? other = none ∧ (t.ensure path).1.sensor? other = some (.fresh other.sensor) := by
  rcases t.ensure_cases path with ⟨-, halter⟩ | ⟨-, hsame⟩
  · rw [halter other]
    split
    · rename_i hother
      subst hother
      cases t.sensor? other with
      | none => exact .inr ⟨rfl, rfl⟩
      | some s => exact .inl rfl
    · exact .inl rfl
  · rw [hsame]
    exact .inl rfl

theorem QuietStep.sensor? (h : QuietStep t t') (path : SensorPath) :
    t'.sensor? path = t.sensor? path ∨
      t.sensor? path = none ∧ t'.sensor? path = some (.fresh path.sensor) := by
  cases h with
  | ensure added => exact t.sensor?_ensure added path
  | serial hok => exact .inl (congrFun (sensor?_setSerial hok) path)
  | label index label => exact .inl (congrFun (t.sensor?_setInputLabel index label) path)

namespace Quiet

theorem refl (t : SensorTree) : Quiet t t := Relation.ReflTransGen.refl

theorem trans (h : Quiet t t') (h' : Quiet t' t'') : Quiet t t'' := Relation.ReflTransGen.trans h h'

theorem antennas (h : Quiet t t') : t'.antennas = t.antennas := by
  induction h with
  | refl => rfl
  | tail _ hstep ih => exact hstep.antennas.trans ih

theorem sound (h : Quiet t t') (hs : t.Sound) : t'.Sound := by
  induction h with
  | refl => exact hs
  | tail _ hstep ih => exact hstep.sound ih

/-- A sensor that is there stays as it is, and one that was not there has not reported. -/
theorem sensor? (h : Quiet t t') (path : SensorPath) :
    t'.sensor? path = t.sensor? path ∨
      t.sensor? path = none ∧ t'.sensor? path = some (.fresh path.sensor) := by
  induction h with
  | refl => exact .inl rfl
  | tail _ hstep ih =>
    rcases hstep.sensor? path with hsame | ⟨hnone, hnew⟩
    · rw [hsame]
      exact ih
    · rcases ih with hsame | ⟨-, hfresh⟩
      · exact .inr ⟨hsame ▸ hnone, hnew⟩
      · rw [hnone] at hfresh
        contradiction

theorem sensor?_eq_some (h : Quiet t t') {path : SensorPath} {s : Sensor}
    (hs : t.sensor? path = some s) : t'.sensor? path = some s := by
  rcases h.sensor? path with hsame | ⟨hnone, -⟩
  · exact hsame.trans hs
  · rw [hnone] at hs
    contradiction

theorem isSome_sensor? (h : Quiet t t') {path : SensorPath} (hs : (t.sensor? path).isSome) :
    (t'.sensor? path).isSome := by
  obtain ⟨s, hs⟩ := Option.isSome_iff_exists.1 hs
  rw [h.sensor?_eq_some hs]
  rfl

/-- Every sensor of the tree is still there, and is what it was. -/
theorem entries (h : Quiet t t') (hs : t.Sound) : ∀ entry ∈ t.entries, entry ∈ t'.entries := by
  intro (path, s) hentry
  have hfound := (mem_entries_iff hs).1 hentry
  exact (mem_entries_iff (h.sound hs)).2 (h.sensor?_eq_some hfound)

end Quiet

/-! ## Payloads for many hosts -/

theorem quiet_applyMapping (t : SensorTree) (mapping : Except InformError HostMapping) :
    Quiet t (t.applyMapping mapping).1 ∧ (t.applyMapping mapping).1.unread = t.unread := by
  unfold applyMapping
  split
  · exact ⟨.refl t, rfl⟩
  · split
    · rename_i hok
      exact ⟨.single (.serial hok), unread_setSerial hok⟩
    · exact ⟨.refl t, rfl⟩

/-- Serials are given to hosts that are there, and to nothing else. -/
theorem quiet_applyMappings (t : SensorTree) (mappings : List (Except InformError HostMapping)) :
    Quiet t (t.applyMappings mappings).1 ∧ (t.applyMappings mappings).1.unread = t.unread := by
  induction mappings generalizing t with
  | nil => exact ⟨.refl t, rfl⟩
  | cons first rest ih =>
    obtain ⟨hquiet, hunread⟩ := t.quiet_applyMapping first
    obtain ⟨hquiet', hunread'⟩ := ih (t.applyMapping first).1
    exact ⟨hquiet.trans hquiet', hunread'.trans hunread⟩

theorem quiet_applyLabel (t : SensorTree) (label : Except InformError InputLabel) :
    Quiet t (t.applyLabel label).1 := by
  unfold applyLabel
  split
  · exact .refl t
  · rename_i label
    split
    · exact .refl t
    · rename_i index _
      have hstep := QuietStep.label t index label.label
      split
      · rename_i t' hresult
        rw [hresult] at hstep
        exact .single hstep
      · rename_i t' e hresult
        rw [hresult] at hstep
        exact .single hstep

theorem quiet_applyLabels (t : SensorTree) (labels : List (Except InformError InputLabel)) :
    Quiet t (t.applyLabels labels).1 := by
  induction labels generalizing t with
  | nil => exact .refl t
  | cons first rest ih => exact (t.quiet_applyLabel first).trans (ih _)

end SensorTree

end ArrayWatch
