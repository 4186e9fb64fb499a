import ArrayWatch.Proofs.TreeInvariant
import Mathlib.Order.MinMax

/-!
# The status of a virtual device

A virtual device stands for all devices of one name on the engines of a host, and its status is the
worst one that one of them says at the moment. Nothing else is in it: not the order in which the
engines came, not another device or sensor, and not what a sensor said before.

* `SensorStatus.worst_eq`: the worst of some statuses, by which of them are there.
* `Host.virtual_status`: the status of a virtual device after anything that can happen to its host.
-/

namespace ArrayWatch

/-! ## The worst of several statuses -/

theorem le_foldl_max_iff {n m : Nat} {xs : List Nat} :
    n ≤ xs.foldl max m ↔ n ≤ m ∨ ∃ x ∈ xs, n ≤ x := by
  induction xs generalizing m with
  | nil => simp
  | cons x rest ih => simp [ih, or_assoc]

namespace SensorStatus

/-- How bad a status is, where one that does not count is not bad at all. -/
def badness (status : Option SensorStatus) : Nat := (status.bind severity?).getD 0

theorem three_le_badness_iff {status : Option SensorStatus} :
    3 ≤ badness status ↔ status = some error ∨ status = some failure := by
  rcases status with _ | status
  · decide
  · cases status <;> decide

theorem two_le_badness_iff {status : Option SensorStatus} :
    2 ≤ badness status ↔ 3 ≤ badness status ∨ status = some warn := by
  rcases status with _ | status
  · decide
  · cases status <;> decide

theorem one_le_badness_iff {status : Option SensorStatus} :
    1 ≤ badness status ↔ 2 ≤ badness status ∨ status = some nominal := by
  rcases status with _ | status
  · decide
  · cases status <;> decide

/-- Failures are told as errors, and statuses that do not count are passed over. -/
theorem worst_eq (statuses : List (Option SensorStatus)) :
    worst statuses =
      if some error ∈ statuses ∨ some failure ∈ statuses then error
      else if some warn ∈ statuses then warn
      else if some nominal ∈ statuses then nominal
      else unknown := by
  let most := (statuses.map badness).foldl max 0
  have hmost : ∀ n, 0 < n → (n ≤ most ↔ ∃ status ∈ statuses, n ≤ badness status) := by
    intro n hn
    simp [most, le_foldl_max_iff, Nat.not_le.2 hn]
  have herror : 3 ≤ most ↔ some error ∈ statuses ∨ some failure ∈ statuses := by
    rw [hmost 3 (by decide)]
    simp [three_le_badness_iff, and_or_left, exists_or]
  have hwarn : 2 ≤ most ↔ 3 ≤ most ∨ some warn ∈ statuses := by
    rw [hmost 2 (by decide), hmost 3 (by decide)]
    simp [two_le_badness_iff, and_or_left, exists_or]
  have hnominal : 1 ≤ most ↔ 2 ≤ most ∨ some nominal ∈ statuses := by
    rw [hmost 1 (by decide), hmost 2 (by decide)]
    simp [one_le_badness_iff, and_or_left, exists_or]
  show ofSeverity most = _
  split
  · rename_i hbad
    obtain ⟨more, hmore⟩ := Nat.exists_eq_add_of_le' (herror.2 hbad)
    rw [hmore]
    rfl
  · rename_i hgood
    have hless : most < 3 := Nat.lt_of_not_le fun h => hgood (herror.1 h)
    split
    · rename_i hbad
      have heq : most = 2 := Nat.le_antisymm (Nat.le_of_lt_succ hless) (hwarn.2 (.inr hbad))
      rw [heq]
      rfl
    · rename_i hbetter
      have hless' : most < 2 := Nat.lt_of_not_le fun h =>
        (hwarn.1 h).elim (Nat.not_le_of_lt hless) hbetter
      split
      · rename_i hbad
        have heq : most = 1 := Nat.le_antisymm (Nat.le_of_lt_succ hless') (hnominal.2 (.inr hbad))
        rw [heq]
        rfl
      · rename_i hnone
        have hless'' : most < 1 := Nat.lt_of_not_le fun h =>
          (hnominal.1 h).elim (Nat.not_le_of_lt hless') hnone
        rw [Nat.lt_one_iff.1 hless'']
        rfl

end SensorStatus

/-! ## What can happen to a host -/

/-- Something that happens to a host: a sensor is made sure of, or is given a reading. -/
inductive HostAct where
  | ensure (place : HostPlace)
  | update (place : HostPlace) (value status : String) (now : Timestamp)

/-- The word that the sensor at a place has for its status afterwards, where there is one. -/
def HostAct.wordAt (place : HostPlace) (word : Option String) : HostAct → Option String
  | .ensure added => if added = place then some (word.getD "unknown") else word
  | .update updated _ status _ => if updated = place then word.map fun _ => status else word

/-- The last status that was given to the sensor at a place since it was made, `unknown` where there
was none, and nothing where no sensor was made. -/
def lastWord (place : HostPlace) (acts : List HostAct) : Option String :=
  acts.foldl (fun word act => act.wordAt place word) none

namespace Host

/-- What happens to a host. A reading for a sensor that the host does not have changes nothing. -/
def act (h : Host) : HostAct → Host
  | .ensure place => h.ensure place
  | .update place value status now => (h.update value status now place).toOption.getD h

def run (h : Host) (acts : List HostAct) : Host := acts.foldl act h

/-- Whether an engine of the host has a device of this name. -/
def Carries (h : Host) (device : String) : Prop :=
  ∃ e ∈ h.engines, ∃ d ∈ e.devices, d.name = device

/-- Whether the sensor `device-status` of a device of this name says this word on some engine. -/
def Says (h : Host) (device word : String) : Prop :=
  ∃ e ∈ h.engines, ∃ d ∈ e.devices, d.name = device ∧
    ∃ s ∈ d.sensors, s.name = "device-status" ∧ s.status = word

instance (h : Host) (device : String) : Decidable (h.Carries device) :=
  inferInstanceAs (Decidable (∃ e ∈ h.engines, ∃ d ∈ e.devices, d.name = device))

instance (h : Host) (device word : String) : Decidable (h.Says device word) :=
  inferInstanceAs (Decidable (∃ e ∈ h.engines, ∃ d ∈ e.devices, d.name = device ∧
    ∃ s ∈ d.sensors, s.name = "device-status" ∧ s.status = word))

/-! ## Histories -/

theorem act_update_cases (h : Host) (place : HostPlace) (value status : String) (now : Timestamp) :
    (∃ h', h.update value status now place = .ok h' ∧
        h.act (.update place value status now) = h') ∨
      h.sensor? place = none ∧ h.act (.update place value status now) = h := by
  have hact : h.act (.update place value status now) =
      (h.update value status now place).toOption.getD h := rfl
  rw [hact]
  cases hupdate : h.update value status now place with
  | ok h' => exact .inl ⟨h', rfl, rfl⟩
  | error e =>
    refine .inr ⟨?_, rfl⟩
    have hfails : ¬ ∃ h', h.update value status now place = .ok h' := by simp [hupdate]
    rwa [exists_ok_update, Option.not_isSome_iff_eq_none] at hfails

theorem run_keeps {P : Host → Prop} (hensure : ∀ h place, P h → P (h.ensure place))
    (hupdate : ∀ h h' place value status now,
      h.update value status now place = .ok h' → P h → P h')
    {h : Host} (hp : P h) (acts : List HostAct) : P (h.run acts) := by
  induction acts generalizing h with
  | nil => exact hp
  | cons act rest ih =>
    apply ih
    cases act with
    | ensure place => exact hensure h place hp
    | update place value status now =>
      rcases h.act_update_cases place value status now with ⟨h', hok, hact⟩ | ⟨-, hact⟩
      · rw [hact]
        exact hupdate h h' place value status now hok hp
      · rwa [hact]

/-- No name is twice on a host, and it has the virtual devices that it should have. -/
theorem sound_run (id : HostId) (acts : List HostAct) :
    let h := (empty id).run acts
    h.Sound ∧ h.Mirrored ∧ h.id = id := by
  apply run_keeps (P := fun h => h.Sound ∧ h.Mirrored ∧ h.id = id)
  · intro h place ⟨hs, hm, hid⟩
    exact ⟨sound_ensure hs place, mirrored_ensure hm place, (id_ensure h place).trans hid⟩
  · intro h h' place value status now hok ⟨hs, hm, hid⟩
    exact ⟨sound_update hok hs, hm.of_unread (unread_update hok), (id_update hok).trans hid⟩
  · exact ⟨sound_empty id, mirrored_empty id, rfl⟩

theorem status_act (h : Host) (act : HostAct) (place : HostPlace) :
    ((h.act act).sensor? place).map Sensor.status =
      act.wordAt place ((h.sensor? place).map Sensor.status) := by
  cases act with
  | ensure added =>
    show ((h.ensure added).sensor? place).map Sensor.status = _
    rw [h.altersAt_ensure added place]
    simp only [HostAct.wordAt]
    by_cases hplace : added = place
    · subst hplace
      rw [if_pos rfl, if_pos rfl]
      cases h.sensor? added <;> rfl
    · rw [if_neg (Ne.symm hplace), if_neg hplace]
  | update updated value status now =>
    simp only [HostAct.wordAt]
    rcases h.act_update_cases updated value status now with ⟨h', hok, hact⟩ | ⟨hnone, hact⟩
    · rw [hact, altersAt_update hok place]
      by_cases hplace : updated = place
      · subst hplace
        rw [if_pos rfl, if_pos rfl]
        cases h.sensor? updated <;> rfl
      · rw [if_neg (Ne.symm hplace), if_neg hplace]
    · rw [hact]
      split
      · rename_i hplace
        rw [← hplace, hnone]
        rfl
      · rfl

/-- Every sensor has the last word that was given to it. -/
theorem status_run (h : Host) (acts : List HostAct) (place : HostPlace) :
    ((h.run acts).sensor? place).map Sensor.status =
      acts.foldl (fun word act => act.wordAt place word) ((h.sensor? place).map Sensor.status) := by
  induction acts generalizing h with
  | nil => rfl
  | cons act rest ih =>
    have hstep := ih (h.act act)
    rwa [status_act] at hstep

theorem carries_iff {h : Host} {device : String} :
    h.Carries device ↔ device ∈ h.engineDeviceNames := by
  simp [Carries, engineDeviceNames]

theorem carries_act (h : Host) (act : HostAct) (device : String) :
    (h.act act).Carries device ↔
      h.Carries device ∨ ∃ engine sensor, .ensure (.engine engine device sensor) = act := by
  simp only [carries_iff]
  cases act with
  | ensure place =>
    cases place with
    | device d sensor =>
      have hsame : (h.act (.ensure (.device d sensor))).engineDeviceNames = h.engineDeviceNames :=
        rfl
      simp [hsame]
    | engine e d sensor =>
      have hnames : device ∈ (h.act (.ensure (.engine e d sensor))).engineDeviceNames ↔ _ :=
        h.mem_engineDeviceNames_ensureEngine e d sensor device
      simp [hnames, or_comm, eq_comm]
  | update place value status now =>
    rcases h.act_update_cases place value status now with ⟨h', hok, hact⟩ | ⟨-, hact⟩
    · rw [hact, ← engineDeviceNames_unread, unread_update hok, engineDeviceNames_unread]
      simp
    · rw [hact]
      simp

/-- A device is carried once a sensor on it was made sure of. -/
theorem carries_run (h : Host) (acts : List HostAct) (device : String) :
    (h.run acts).Carries device ↔
      h.Carries device ∨ ∃ engine sensor, .ensure (.engine engine device sensor) ∈ acts := by
  induction acts generalizing h with
  | nil => simp [run]
  | cons act rest ih =>
    show ((h.act act).run rest).Carries device ↔ _
    rw [ih, carries_act, or_assoc]
    simp only [List.mem_cons, exists_or]

/-! ## Words and statuses -/

theorem Sound.says_iff {h : Host} (hs : h.Sound) {device word : String} :
    h.Says device word ↔
      ∃ engine, (h.sensor? (.engine engine device "device-status")).map Sensor.status =
        some word := by
  simp only [Option.map_eq_some_iff, hs.sensor?_engine_eq_some_iff]
  constructor
  · rintro ⟨e, he, d, hd, hdevice, s, hs, hsensor, hword⟩
    exact ⟨e.name, s, ⟨e, he, rfl, d, hd, hdevice, hs, hsensor⟩, hword⟩
  · rintro ⟨engine, s, ⟨e, he, -, d, hd, hdevice, hs, hsensor⟩, hword⟩
    exact ⟨e, he, d, hd, hdevice, s, hs, hsensor, hword⟩

/-- What the engines tell of a device, by the words of its sensors. -/
theorem Sound.mem_statuses_iff {h : Host} (hs : h.Sound) {device : String} {status : SensorStatus} :
    some status ∈ h.engines.map (fun engine =>
        (engine.device? device).bind fun d => d.status?.bind Sensor.status?) ↔
      h.Says device status.word := by
  simp only [List.mem_map, Option.bind_eq_some_iff]
  constructor
  · rintro ⟨e, he, d, hd, s, hsensor, hword⟩
    obtain ⟨hd, hdevice⟩ := Keyed.mem_of_get?_eq_some hd
    obtain ⟨hs, hsensor⟩ := Keyed.mem_of_get?_eq_some hsensor
    exact ⟨e, he, d, hd, hdevice, s, hs, hsensor, SensorStatus.ofWord?_eq_some_iff.1 hword⟩
  · rintro ⟨e, he, d, hd, hdevice, s, hsensor, hname, hword⟩
    have hdevices : Devices.Sound e.devices := hs.engines.each e he
    have hsensors : d.Sound := hdevices.each d hd
    exact ⟨e, he, d, hdevices.get?_eq_some_iff.2 ⟨hd, hdevice⟩, s,
      hsensors.sensor?_eq_some_iff.2 ⟨hsensor, hname⟩, SensorStatus.ofWord?_eq_some_iff.2 hword⟩

/-- The status of a virtual device of a host, by the words of the sensors that it stands for. -/
theorem virtualStatus?_eq {h : Host} (hs : h.Sound) (hm : h.Mirrored) (device : String) :
    h.virtualStatus? device =
      if h.Carries device then
        some (if h.Says device "error" ∨ h.Says device "failure" then .error
          else if h.Says device "warn" then .warn
          else if h.Says device "nominal" then .nominal
          else .unknown)
      else none := by
  have hthere : (h.virtualDevice? device).isSome ↔ h.Carries device := by
    rw [carries_iff, ← hm.mem_names, List.mem_map, Option.isSome_iff_exists]
    simp only [virtualDevice?, hm.each.get?_eq_some_iff]
  unfold virtualStatus?
  cases hdevice : h.virtualDevice? device with
  | none =>
    rw [hdevice] at hthere
    rw [if_neg (fun hcarries => by simpa using hthere.2 hcarries)]
    rfl
  | some v =>
    rw [hdevice] at hthere
    obtain ⟨hmem, rfl⟩ := hm.each.get?_eq_some_iff.1 hdevice
    have hstatus : v.status h = _ := if_pos (hm.each.each v hmem).symm
    rw [if_pos (hthere.1 rfl), Option.map_some, hstatus, SensorStatus.worst_eq]
    simp only [hs.mem_statuses_iff]
    rfl

/-- Whatever happened to a host: the status of a virtual device is the worst one that the sensor
`device-status` of a device of its name has at the moment, and there is one where an engine carries
such a device. The word of a sensor is the last one that it was given, so that the status is the
same for every other history in which the same devices of this name are carried and every sensor
that counts has the same last word. A virtual device knows nothing of another host. -/
theorem virtual_status (id : HostId) (acts : List HostAct) (device : String) :
    let h := (empty id).run acts
    h.virtualStatus? device =
        (if h.Carries device then
          some (if h.Says device "error" ∨ h.Says device "failure" then .error
            else if h.Says device "warn" then .warn
            else if h.Says device "nominal" then .nominal
            else .unknown)
        else none) ∧
      (h.Carries device ↔ ∃ engine sensor, .ensure (.engine engine device sensor) ∈ acts) ∧
      (∀ word, h.Says device word ↔
        ∃ engine, lastWord (.engine engine device "device-status") acts = some word) ∧
      (∀ id' acts',
        ((∃ engine sensor, .ensure (.engine engine device sensor) ∈ acts') ↔
          ∃ engine sensor, .ensure (.engine engine device sensor) ∈ acts) →
        (∀ engine, lastWord (.engine engine device "device-status") acts' =
          lastWord (.engine engine device "device-status") acts) →
        ((empty id').run acts').virtualStatus? device = h.virtualStatus? device) ∧
      ∀ v ∈ h.virtualDevices, ∀ other : Host, other.id ≠ h.id → v.status other = .unknown := by
  have hcarries : ∀ id acts, ((empty id).run acts).Carries device ↔
      ∃ engine sensor, .ensure (.engine engine device sensor) ∈ acts := by
    intro id acts
    have hnew : ¬ (empty id).Carries device := by simp [Carries, empty]
    rw [carries_run, or_iff_right hnew]
  have hspoken : ∀ id acts word, ((empty id).run acts).Says device word ↔
      ∃ engine, lastWord (.engine engine device "device-status") acts = some word := by
    intro id acts word
    have hword : ∀ place, (((empty id).run acts).sensor? place).map Sensor.status =
        lastWord place acts := by
      intro place
      rw [status_run]
      cases place <;> rfl
    simp only [(sound_run id acts).1.says_iff, hword]
  intro h
  obtain ⟨hs, hm, hid⟩ := sound_run id acts
  refine ⟨virtualStatus?_eq hs hm device, hcarries id acts, hspoken id acts, ?_, ?_⟩
  · intro id' acts' hsame hwords
    obtain ⟨hs', hm', -⟩ := sound_run id' acts'
    rw [virtualStatus?_eq hs hm, virtualStatus?_eq hs' hm']
    have hcarried :
        ((empty id').run acts').Carries device ↔ ((empty id).run acts).Carries device := by
      rw [hcarries, hcarries, hsame]
    have hsaid : ∀ word,
        ((empty id').run acts').Says device word ↔ ((empty id).run acts).Says device word := by
      intro word
      rw [hspoken, hspoken]
      simp only [hwords]
    simp only [hcarried, hsaid]
  · intro v hv other hother
    exact if_neg fun hhost => hother (hhost.trans (hm.each.each v hv))

/-- Two engines that come in another order on another host, a second device, a sensor that is not
there, and a word that was overwritten. -/
theorem virtual_status_otherOrder :
    let acts : List HostAct :=
      [.ensure (.engine "xeng0" "vacc" "device-status"),
        .ensure (.engine "xeng1" "vacc" "device-status"),
        .update (.engine "xeng0" "vacc" "device-status") "" "warn" ⟨0⟩,
        .update (.engine "xeng1" "vacc" "device-status") "" "failure" ⟨1⟩]
    let acts' : List HostAct :=
      [.ensure (.engine "xeng1" "vacc" "device-status"),
        .ensure (.engine "xeng1" "spead" "device-status"),
        .update (.engine "xeng0" "vacc" "device-status") "" "nominal" ⟨0⟩,
        .ensure (.engine "xeng0" "vacc" "device-status"),
        .update (.engine "xeng0" "vacc" "device-status") "" "error" ⟨0⟩,
        .update (.engine "xeng1" "vacc" "device-status") "" "failure" ⟨1⟩,
        .update (.engine "xeng0" "vacc" "device-status") "" "warn" ⟨2⟩]
    (∀ engine, lastWord (.engine engine "vacc" "device-status") acts' =
        lastWord (.engine engine "vacc" "device-status") acts) ∧
      ((empty ⟨'y', 0⟩).run acts').virtualStatus? "vacc" =
        ((empty ⟨'x', 3⟩).run acts).virtualStatus? "vacc" ∧
      ((empty ⟨'x', 3⟩).run acts).virtualStatus? "vacc" = some .error := by
  intro acts acts'
  have hwords : ∀ engine, lastWord (.engine engine "vacc" "device-status") acts' =
      lastWord (.engine engine "vacc" "device-status") acts := by
    intro engine
    by_cases hzero : engine = "xeng0"
    · subst hzero
      decide
    · by_cases hone : engine = "xeng1"
      · subst hone
        decide
      · simp [acts, acts', lastWord, HostAct.wordAt, Ne.symm hzero, Ne.symm hone]
  have hcarried : (∃ engine sensor, .ensure (.engine engine "vacc" sensor) ∈ acts') ↔
      ∃ engine sensor, .ensure (.engine engine "vacc" sensor) ∈ acts :=
    ⟨fun _ => ⟨"xeng0", "device-status", by simp [acts]⟩,
      fun _ => ⟨"xeng0", "device-status", by simp [acts']⟩⟩
  exact ⟨hwords, (virtual_status ⟨'x', 3⟩ acts "vacc").2.2.2.1 ⟨'y', 0⟩ acts' hcarried hwords,
    by decide⟩

end Host

end ArrayWatch
