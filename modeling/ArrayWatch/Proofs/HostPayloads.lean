import ArrayWatch.Proofs.TreeInvariant

/-!
# Payloads for many hosts

A payload has many parts, and every part is for one host, for none, or cannot be used. The parts are
taken one after the other, so that a host is left with the word that the last part for it brings. In
a sound tree that is the same as going through all hosts once and giving each one its word.

* `SensorTree.mapHosts`: every host is changed, and nothing else.
* `SensorTree.modifyHost_eq`: a change of one host, seen as a change of all hosts.
* `Host.Register`: a word of a host that is overwritten as a whole. `SensorTree.takeAll_eq`: what
  many parts that bring such words do.
* `ArrayMoment.served`: the tree of an array is always one of those for which this holds.
-/

namespace ArrayWatch

/-! ## One item of a table -/

namespace Keyed

variable {Item Key : Type} [DecidableEq Key] {keyOf : Item → Key} {key : Key}

theorem map_eq_self_of_ne {g : Item → Item} {items : List Item}
    (h : ∀ item ∈ items, keyOf item ≠ key) :
    items.map (fun item => if keyOf item = key then g item else item) = items := by
  rw [List.map_congr_left fun item hitem => if_neg (h item hitem), List.map_id']

/-- Where no key is twice, a change of the first item with a key is a change of all items with the
key. -/
theorem update_eq_map {ε : Type} {missing : ε} {change : Item → Except ε Item} {g : Item → Item}
    {items : List Item} (hnodup : (items.map keyOf).Nodup) (hkey : key ∈ items.map keyOf)
    (hchange : ∀ item ∈ items, keyOf item = key → change item = .ok (g item)) :
    update keyOf key missing change items =
      .ok (items.map fun item => if keyOf item = key then g item else item) := by
  induction items with
  | nil => exact absurd hkey List.not_mem_nil
  | cons first rest ih =>
    rw [List.map_cons, List.nodup_cons] at hnodup
    obtain ⟨hfresh, hrest⟩ := hnodup
    unfold update
    by_cases hfirst : keyOf first = key
    · have hothers : ∀ item ∈ rest, keyOf item ≠ key := by
        rintro item hitem rfl
        exact hfresh (hfirst ▸ List.mem_map_of_mem hitem)
      rw [if_pos hfirst, hchange first List.mem_cons_self hfirst, List.map_cons, if_pos hfirst,
        map_eq_self_of_ne hothers]
      rfl
    · have hkey' : key ∈ rest.map keyOf := (List.mem_cons.1 hkey).resolve_left (Ne.symm hfirst)
      have hchange' : ∀ item ∈ rest, keyOf item = key → change item = .ok (g item) :=
        fun item hitem => hchange item (List.mem_cons_of_mem _ hitem)
      rw [if_neg hfirst, ih hrest hkey' hchange', List.map_cons, if_neg hfirst]
      rfl

/-- An item that is there is not added again. -/
theorem upsert_id_of_mem {fresh : Item} {items : List Item} (h : key ∈ items.map keyOf) :
    upsert keyOf key fresh id items = items := by
  rcases upsert_cases keyOf key fresh id items with
    ⟨hnone, -⟩ | ⟨before, item, after, hitems, hsame, -, -⟩
  · obtain ⟨item, hitem, hkey⟩ := List.mem_map.1 h
    exact absurd hkey (hnone item hitem)
  · rw [hsame, hitems]
    rfl

end Keyed

/-! ## All hosts -/

/-- Changes every host. -/
def SensorTree.mapHosts (t : SensorTree) (f : Host → Host) : SensorTree :=
  { t with teams := t.teams.map fun team => { team with hosts := team.hosts.map f } }

/-- There is a team of the letter, and the number is one of its hosts. -/
def SensorTree.Has (t : SensorTree) (id : HostId) : Prop :=
  id.team ∈ t.kinds ∧ id.index < t.antennas

instance (t : SensorTree) (id : HostId) : Decidable (t.Has id) :=
  inferInstanceAs (Decidable (_ ∧ _))

namespace Team

variable {antennas : Nat} {t : Team}

theorem Sound.modify_eq (h : t.Sound antennas) {index : Nat} (hindex : index < antennas)
    (f : Host → Host) :
    t.modify index (fun host => .ok (f host)) =
      .ok { t with
        hosts := t.hosts.map fun host => if host.id = ⟨t.kind, index⟩ then f host else host } := by
  obtain ⟨host, hhost⟩ := Option.isSome_iff_exists.1 (h.isSome_host?_iff.2 hindex)
  have hset : t.hosts.set index (f host) =
      t.hosts.map fun host => if host.id = ⟨t.kind, index⟩ then f host else host := by
    apply List.ext_getElem?
    intro i
    rw [List.getElem?_set, List.getElem?_map]
    cases hi : t.hosts[i]? with
    | none =>
      have hlength := List.getElem?_eq_none_iff.1 hi
      split
      · rename_i heq
        subst heq
        rw [if_neg (Nat.not_lt.2 hlength)]
        rfl
      · rfl
    | some other =>
      have hid : other.id = ⟨t.kind, i⟩ := (h.host?_eq_some_iff.1 hi).2
      have hlength := (List.getElem?_eq_some_iff.1 hi).1
      rw [Option.map_some, hid]
      by_cases heq : index = i
      · subst heq
        obtain rfl : other = host := Option.some.inj (hi.symm.trans hhost)
        rw [if_pos rfl, if_pos hlength, if_pos rfl]
      · have hne : (⟨t.kind, i⟩ : HostId) ≠ ⟨t.kind, index⟩ :=
          fun hsame => heq (congrArg HostId.index hsame).symm
        rw [if_neg heq, if_neg hne]
  unfold modify
  rw [hhost, ← hset]
  rfl

theorem Sound.id_of_mem (h : t.Sound antennas) {host : Host} (hhost : host ∈ t.hosts) :
    host.id.team = t.kind ∧ host.id.index < antennas := by
  have hid : host.id ∈ t.hosts.map Host.id := List.mem_map_of_mem hhost
  rw [h.ids] at hid
  obtain ⟨index, hindex, heq⟩ := List.mem_map.1 hid
  rw [← heq]
  exact ⟨rfl, List.mem_range.1 hindex⟩

end Team

namespace SensorTree

variable {t : SensorTree}

/-! ### One host -/

theorem Sound.has_id (h : t.Sound) {team : Team} (hteam : team ∈ t.teams) {host : Host}
    (hhost : host ∈ team.hosts) : t.Has host.id := by
  obtain ⟨hkind, hindex⟩ := (h.teams.each team hteam).id_of_mem hhost
  exact ⟨hkind ▸ List.mem_map_of_mem hteam, hindex⟩

/-- The hosts that are there are those that are found. -/
theorem Sound.isSome_host?_iff (h : t.Sound) {id : HostId} : (t.host? id).isSome ↔ t.Has id := by
  constructor
  · intro hsome
    obtain ⟨host, hhost⟩ := Option.isSome_iff_exists.1 hsome
    obtain ⟨team, hteam, hmem, rfl⟩ := h.host?_eq_some_iff.1 hhost
    exact h.has_id hteam hmem
  · rintro ⟨hkind, hindex⟩
    obtain ⟨team, hteam, hkind⟩ := List.mem_map.1 hkind
    have hfound : t.team? id.team = some team := h.teams.get?_eq_some_iff.2 ⟨hteam, hkind⟩
    unfold host?
    rw [hfound]
    exact (h.teams.each team hteam).isSome_host?_iff.2 hindex

/-- A change of one host is a change of all hosts with its identity. -/
theorem modifyHost_eq (h : t.Sound) {id : HostId} (hid : t.Has id) (f : Host → Host) :
    t.modifyTeam id.team (·.modify id.index fun host => .ok (f host)) =
      .ok (t.mapHosts fun host => if host.id = id then f host else host) := by
  have hupdate : Keyed.update Team.kind id.team (.unknownTeam id.team)
      (·.modify id.index fun host => .ok (f host)) t.teams = _ :=
    Keyed.update_eq_map h.teams.nodup hid.1 fun team hteam _ =>
      (h.teams.each team hteam).modify_eq hid.2 f
  rw [modifyTeam_eq, hupdate]
  unfold mapHosts
  refine congrArg (fun teams => Except.ok { t with teams }) (List.map_congr_left ?_)
  intro team hteam
  have hsound := h.teams.each team hteam
  by_cases hkind : team.kind = id.team
  · rw [if_pos hkind, hkind]
  · have hsame :
        team.hosts.map (fun host => if host.id = id then f host else host) = team.hosts := by
      apply Keyed.map_eq_self_of_ne
      rintro host hhost rfl
      exact hkind (hsound.id_of_mem hhost).1.symm
    rw [if_neg hkind, hsame]

/-- A host that is not there cannot be changed. -/
theorem modifyHost_error (h : t.Sound) {id : HostId} (hid : ¬ t.Has id) (f : Host → Host) :
    ∃ e, t.modifyTeam id.team (·.modify id.index fun host => .ok (f host)) = .error e := by
  cases hresult : t.modifyTeam id.team (·.modify id.index fun host => .ok (f host)) with
  | error e => exact ⟨e, rfl⟩
  | ok t' =>
    refine absurd ?_ hid
    rw [modifyTeam_eq] at hresult
    obtain ⟨teams, hteams, -⟩ := Keyed.eq_ok_of_map hresult
    obtain ⟨team, hteam, team', hmodify⟩ := Keyed.exists_ok_update.1 ⟨teams, hteams⟩
    obtain ⟨hmem, hkind⟩ := Keyed.mem_of_get?_eq_some hteam
    obtain ⟨host, hhost, -⟩ := Team.exists_ok_modify.1 ⟨team', hmodify⟩
    have hindex : id.index < t.antennas :=
      (h.teams.each team hmem).isSome_host?_iff.1 (Option.isSome_of_mem hhost)
    exact ⟨hkind ▸ List.mem_map_of_mem hmem, hindex⟩

theorem ensureTeam_eq_self {kind : Char} (h : kind ∈ t.kinds) : t.ensureTeam kind = t := by
  unfold ensureTeam
  rw [Keyed.upsert_id_of_mem h]

/-! ### All hosts -/

theorem mapHosts_mapHosts (t : SensorTree) (f g : Host → Host) :
    (t.mapHosts f).mapHosts g = t.mapHosts (g ∘ f) := by
  simp only [mapHosts, List.map_map, Function.comp_def]

theorem mapHosts_eq_self {f : Host → Host}
    (h : ∀ team ∈ t.teams, ∀ host ∈ team.hosts, f host = host) : t.mapHosts f = t := by
  have hteams : t.teams.map (fun team => { team with hosts := team.hosts.map f }) = t.teams := by
    rw [← List.map_id' t.teams, List.map_map]
    apply List.map_congr_left
    intro team hteam
    have hhosts : team.hosts.map f = team.hosts :=
      (List.map_congr_left (h team hteam)).trans team.hosts.map_id'
    exact congrArg (Team.mk team.kind) hhosts
  unfold mapHosts
  rw [hteams]

theorem kinds_mapHosts (t : SensorTree) (f : Host → Host) : (t.mapHosts f).kinds = t.kinds := by
  simp only [kinds, mapHosts, List.map_map]
  rfl

theorem has_mapHosts (t : SensorTree) (f : Host → Host) (id : HostId) :
    (t.mapHosts f).Has id ↔ t.Has id := by
  unfold Has
  rw [kinds_mapHosts]
  rfl

theorem sound_mapHosts (h : t.Sound) {f : Host → Host} (hid : ∀ host, (f host).id = host.id)
    (hsound : ∀ host, host.Sound → (f host).Sound) : (t.mapHosts f).Sound := by
  refine ⟨h.top, ?_, ?_⟩
  · show (t.mapHosts f).kinds.Nodup
    rw [kinds_mapHosts]
    exact h.teams.nodup
  · intro team hteam
    obtain ⟨old, hold, rfl⟩ := List.mem_map.1 hteam
    have hs := h.teams.each old hold
    constructor
    · rw [List.map_map]
      exact (List.map_congr_left fun host _ => hid host).trans hs.ids
    · intro host hhost
      obtain ⟨before, hbefore, rfl⟩ := List.mem_map.1 hhost
      exact hsound before (hs.hosts before hbefore)

end SensorTree

/-! ## Many parts -/

/-- A word of a host that is always overwritten as a whole. No other part of a host is touched that
the tree rests on. -/
structure Host.Register {Word : Type} (set : Word → Host → Host) : Prop where
  id : ∀ word host, (set word host).id = host.id
  sound : ∀ word host, host.Sound → (set word host).Sound
  again : ∀ first last host, set last (set first host) = set last host

namespace Host

theorem register_setSerial : Register fun serial host => host.setSerial serial :=
  ⟨fun _ _ => rfl, fun _ _ h => ⟨h.devices, h.engines⟩, fun _ _ _ => rfl⟩

theorem register_setInputLabel : Register fun label host => host.setInputLabel label :=
  ⟨fun _ _ => rfl, fun _ _ h => ⟨h.devices, h.engines⟩, fun _ _ _ => rfl⟩

/-- A host with the word that is for it, if there is one. -/
def given {Word : Type} (host : Host) (set : Word → Host → Host) (word : Option Word) : Host :=
  word.elim host (set · host)

section Given

variable {Word : Type} {set : Word → Host → Host}

theorem id_given (hset : Register set) (host : Host) (word : Option Word) :
    (host.given set word).id = host.id := by
  cases word with
  | none => rfl
  | some word => exact hset.id word host

theorem sound_given (hset : Register set) {host : Host} (h : host.Sound) (word : Option Word) :
    (host.given set word).Sound := by
  cases word with
  | none => exact h
  | some word => exact hset.sound word host h

theorem given_given (hset : Register set) (host : Host) (first last : Option Word) :
    (host.given set first).given set last = host.given set (last.or first) := by
  cases last with
  | none => rfl
  | some word =>
    cases first with
    | none => rfl
    | some old => exact hset.again old word host

end Given

end Host

/-- The last word that some of the parts bring. -/
def lastWord? {Part Word : Type} (word? : Part → Option Word) (parts : List Part) : Option Word :=
  (parts.filterMap word?).getLast?

theorem lastWord?_cons {Part Word : Type} (word? : Part → Option Word) (first : Part)
    (rest : List Part) :
    lastWord? word? (first :: rest) = (lastWord? word? rest).or (word? first) := by
  unfold lastWord?
  cases hfirst : word? first with
  | none => rw [List.filterMap_cons_none hfirst, Option.or_none]
  | some word =>
    rw [List.filterMap_cons_some hfirst, List.getLast?_cons]
    cases (rest.filterMap word?).getLast? <;> rfl

namespace SensorTree

/-- Each host with the word that is for it. -/
def overwrite {Word : Type} (t : SensorTree) (set : Word → Host → Host)
    (word : HostId → Option Word) : SensorTree :=
  t.mapHosts fun host => host.given set (word host.id)

/-- No key is twice, and the channelisers are there. -/
structure Served (antennas : Nat) (t : SensorTree) : Prop where
  sound : t.Sound
  antennas : t.antennas = antennas
  channelisers : channeliserTeam ∈ t.kinds

section Parts

variable {Part Word : Type} {set : Word → Host → Host} {word? : HostId → Part → Option Word}
  {faulty : SensorTree → Part → Bool} {take : SensorTree → Part → SensorTree × Nat}
  {takeAll : SensorTree → List Part → SensorTree × Nat} {antennas : Nat} {t : SensorTree}

theorem overwrite_none (t : SensorTree) : t.overwrite set (fun _ => none) = t :=
  mapHosts_eq_self fun _ _ _ _ => rfl

theorem overwrite_overwrite (hset : Host.Register set) (t : SensorTree)
    (first last : HostId → Option Word) :
    (t.overwrite set first).overwrite set last =
      t.overwrite set fun id => (last id).or (first id) := by
  unfold overwrite
  rw [mapHosts_mapHosts]
  refine congrArg t.mapHosts (funext fun host => ?_)
  rw [Function.comp_apply, Host.id_given hset, Host.given_given hset]

/-- One host is given a word where it is there. Where it is not, it cannot be given one, and giving
every such host its word is no change. -/
theorem overwrite_cases (set : Word → Host → Host) (h : t.Sound) (id : HostId) (word : Word) :
    let given := t.overwrite set fun other => if other = id then some word else none
    let result := t.modifyTeam id.team (·.modify id.index fun host => .ok (set word host))
    t.Has id ∧ result = .ok given ∨ ¬ t.Has id ∧ given = t ∧ ∃ e, result = .error e := by
  intro given result
  have hgiven : given = t.mapHosts fun host => if host.id = id then set word host else host := by
    refine congrArg t.mapHosts (funext fun host => ?_)
    dsimp only
    by_cases hid : host.id = id
    · rw [if_pos hid, if_pos hid]
      rfl
    · rw [if_neg hid, if_neg hid]
      rfl
  by_cases hid : t.Has id
  · left
    refine ⟨hid, ?_⟩
    rw [hgiven]
    exact modifyHost_eq h hid (set word)
  · right
    refine ⟨hid, ?_, modifyHost_error h hid (set word)⟩
    rw [hgiven]
    apply mapHosts_eq_self
    intro team hteam host hhost
    apply if_neg
    rintro rfl
    exact hid (h.has_id hteam hhost)

theorem has_overwrite (t : SensorTree) (word : HostId → Option Word) (id : HostId) :
    (t.overwrite set word).Has id ↔ t.Has id :=
  t.has_mapHosts _ id

theorem Served.overwrite (h : t.Served antennas) (hset : Host.Register set)
    (word : HostId → Option Word) : (t.overwrite set word).Served antennas := by
  refine ⟨sound_mapHosts h.sound ?_ ?_, h.antennas, (t.kinds_mapHosts _).symm ▸ h.channelisers⟩
  · exact fun host => Host.id_given hset host _
  · exact fun host hs => Host.sound_given hset hs _

/-- When every part gives its word to its host and counts if it is faulty, then all parts together
give each host the last word for it and count the faulty ones. Which parts are faulty must not
depend on the words of the hosts. -/
theorem takeAll_eq (hset : Host.Register set) (hnil : ∀ t, takeAll t [] = (t, 0))
    (hcons : ∀ t first rest, takeAll t (first :: rest) =
      ((takeAll (take t first).1 rest).1, (take t first).2 + (takeAll (take t first).1 rest).2))
    (htake : ∀ t part, t.Served antennas →
      take t part = (t.overwrite set (word? · part), (faulty t part).toNat))
    (hfaulty : ∀ t word, faulty (t.overwrite set word) = faulty t) (h : t.Served antennas)
    (parts : List Part) :
    takeAll t parts =
      (t.overwrite set fun id => lastWord? (word? id) parts, parts.countP (faulty t)) := by
  induction parts generalizing t with
  | nil =>
    rw [hnil, List.countP_nil]
    exact congrArg (·, 0) t.overwrite_none.symm
  | cons first rest ih =>
    have hcount : (faulty t first).toNat = if faulty t first then 1 else 0 := by
      cases faulty t first <;> rfl
    rw [hcons, htake t first h, ih (h.overwrite hset _), overwrite_overwrite hset, hfaulty, hcount]
    simp only [lastWord?_cons, List.countP_cons, Nat.add_comm]

end Parts

end SensorTree

/-! ## Arrays and counts -/

/-- The tree of an array at every moment of every run. -/
theorem ArrayMoment.served {ν : Type} [Network ν] (spec : Announcement) (cmcAddress : String)
    (plan : Plan) (maxRetries : UInt32) (control monitor : Link) (world : World ν)
    (acts : List (ArrayAct ν)) :
    let m := (start spec cmcAddress plan maxRetries control monitor world).run acts
    m.array.antennas = spec.antennas ∧ m.array.tree.Served spec.antennas := by
  intro m
  have hspec : m.array.spec = spec :=
    (settings_run (start spec cmcAddress plan maxRetries control monitor world) acts).1
  have hantennas : m.array.antennas = spec.antennas := congrArg Announcement.antennas hspec
  obtain ⟨hready, hmirrored⟩ : m.array.Ready ∧ m.array.tree.Mirrored := by
    apply run_keeps (P := fun m => m.array.Ready ∧ m.array.tree.Mirrored)
    · intro m act h
      refine ⟨ready_step h.1 act, tree_step ?_ ?_ h.2 act⟩
      · intro t t' hstep
        exact hstep.mirrored
      · intro t t' path value status now
        exact SensorTree.mirrored_update
    · exact ⟨CorrelatorArray.ready_ofLinks .., SensorTree.mirrored_empty ..⟩
  exact ⟨hantennas, hready.sound, hready.antennas.trans hantennas, hmirrored.channelisers⟩

/-- A count of zero is not entered, and is no change. -/
theorem Metrics.value_malformed (m : Metrics) (reason : String) (count : Nat) :
    (m.malformed reason count).malformedInforms.value [reason] =
      m.malformedInforms.value [reason] + count := by
  unfold malformed
  split
  · rename_i hzero
    subst hzero
    exact (Int.add_zero _).symm
  · exact m.malformedInforms.value_add_self [reason] count

end ArrayWatch
