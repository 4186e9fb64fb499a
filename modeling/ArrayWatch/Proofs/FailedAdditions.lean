import ArrayWatch.Link.Scripted
import ArrayWatch.Proofs.HostPayloads
import ArrayWatch.Snapshot.Basic

/-!
# Sensors that cannot be added

A sensor of a host cannot be added where the number of the host is not one of an antenna. The team
is looked for before the host, and is made where no team has the letter, so that a failed addition
is not always without a trace: it leaves the array as it was, but for an empty team where the letter
was new.

* `SensorTree.ensure_beyond`: what an addition beyond the last antenna does.
* `ArrayMoment.failed_addition_leaves`: a failed addition to an array, and what is shown of it.
* `ArrayMoment.not_unchanged_by_failure`: an array that is shown with one team more.
-/

namespace ArrayWatch

/-! ## Teams -/

/-- A team has no host beyond the last antenna. -/
theorem Team.Sound.modify_beyond {antennas : Nat} {t : Team} (h : t.Sound antennas) {index : Nat}
    (hindex : antennas ≤ index) (change : Host → Except TreeError Host) :
    t.modify index change = .error (.noHost t.kind index antennas) := by
  have hnone : t.host? index = none := by
    rw [← Option.not_isSome_iff_eq_none, h.isSome_host?_iff]
    exact Nat.not_lt.2 hindex
  unfold modify
  rw [hnone, h.size_eq]

/-! ## Trees -/

namespace SensorTree

variable {t : SensorTree}

/-- A team of a new letter comes after the others. -/
theorem ensureTeam_of_new {kind : Char} (h : kind ∉ t.kinds) :
    t.ensureTeam kind = { t with teams := t.teams ++ [.empty kind t.antennas] } := by
  unfold ensureTeam
  rcases Keyed.upsert_cases Team.kind kind (.empty kind t.antennas) id t.teams with
    ⟨-, hadded⟩ | ⟨before, team, after, hteams, -, -, hkind⟩
  · rw [hadded]
    rfl
  · have hmem : team ∈ t.teams := hteams ▸ List.mem_append_right _ List.mem_cons_self
    exact absurd (hkind ▸ List.mem_map_of_mem hmem) h

/-- The team is there when the host is looked for. -/
theorem ensure_beyond (h : t.Sound) {id : HostId} (hindex : t.antennas ≤ id.index)
    (place : HostPlace) :
    t.ensure (place.path id) =
      (t.ensureTeam id.team, .error (.noHost id.team id.index t.antennas)) := by
  obtain ⟨team, hteam⟩ := t.exists_team?_ensureTeam id.team
  obtain ⟨hmem, hkind⟩ := Keyed.mem_of_get?_eq_some hteam
  have hsound : team.Sound t.antennas := (sound_ensureTeam h id.team).teams.each team hmem
  have hfail : (t.ensureTeam id.team).modifyTeam id.team
      (·.modify id.index fun host => .ok (host.ensure place)) =
        .error (.noHost id.team id.index t.antennas) := by
    have hteams : Keyed.update Team.kind id.team (TreeError.unknownTeam id.team)
        (·.modify id.index fun host => .ok (host.ensure place)) (t.ensureTeam id.team).teams =
          .error (.noHost team.kind id.index t.antennas) :=
      Keyed.update_eq_error hteam (hsound.modify_beyond hindex _)
    rw [modifyTeam_eq, hteams, hkind]
    rfl
  rw [ensure_path, modifyTeamEnsured, hfail]
  rfl

end SensorTree

/-! ## Arrays -/

/-- An addition fails only beyond the last antenna, and then the array has a team of the letter. -/
theorem CorrelatorArray.Ready.ensureSensor_failed {a : CorrelatorArray} (h : a.Ready) {id : HostId}
    {place : HostPlace} {e : ArrayError} (hfail : (a.ensureSensor (place.path id)).2 = .error e) :
    a.antennas ≤ id.index ∧
      a.ensureSensor (place.path id) = ({ a with tree := a.tree.ensureTeam id.team },
        .error (.tree (.noHost id.team id.index a.antennas))) := by
  have hindex : a.antennas ≤ id.index := by
    refine Nat.not_lt.1 fun hwithin => ?_
    rw [h.ensure (SensorPath.within_path.2 hwithin)] at hfail
    contradiction
  refine ⟨hindex, ?_⟩
  rw [← h.antennas] at hindex ⊢
  rw [ensureSensor, SensorTree.ensure_beyond h.sound hindex]
  rfl

namespace ArrayMoment

variable {ν : Type} [Network ν]

/-- At any moment of a run, a sensor of a host or of an engine cannot be added only where the number
of the host is not one of an antenna, and the failure says so. If the letter is known, the array and
what is shown of it are as before. If it is not, there is one team more, after the others and with
an empty host for each antenna, and everything else is as before. Either way no sensor is found that
was not before, and none is lost. -/
theorem failed_addition_leaves (spec : Announcement) (cmcAddress : String) (plan : Plan)
    (maxRetries : UInt32) (control monitor : Link) (world : World ν) (acts : List (ArrayAct ν))
    (id : HostId) (place : HostPlace) {e : ArrayError} :
    let a := ((start spec cmcAddress plan maxRetries control monitor world).run acts).array
    let after := (a.ensureSensor (place.path id)).1
    (a.ensureSensor (place.path id)).2 = .error e →
      (spec.antennas ≤ id.index ∧ e = .tree (.noHost id.team id.index spec.antennas)) ∧
        (id.team ∈ a.tree.kinds → after = a ∧ ArrayView.ofArray after = .ofArray a) ∧
        (id.team ∉ a.tree.kinds →
          let teams := a.tree.teams ++ [.empty id.team spec.antennas]
          after = { a with tree.teams := teams } ∧
            ArrayView.ofArray after = { ArrayView.ofArray a with teams }) ∧
        after.tree.sensor? = a.tree.sensor? := by
  intro a after hfail
  obtain ⟨hantennas, hserved⟩ : a.antennas = spec.antennas ∧ a.tree.Served spec.antennas :=
    served spec cmcAddress plan maxRetries control monitor world acts
  have hready : a.Ready := ⟨hserved.sound, hserved.antennas.trans hantennas.symm⟩
  obtain ⟨hindex, hresult⟩ := hready.ensureSensor_failed hfail
  have hafter : after = { a with tree := a.tree.ensureTeam id.team } := congrArg Prod.fst hresult
  rw [hresult, hantennas] at hfail
  rw [hantennas] at hindex
  refine ⟨⟨hindex, (Except.error.inj hfail).symm⟩, fun hknown => ?_, fun hnew => ?_, ?_⟩
  · have hsame : after = a := by
      rw [hafter, SensorTree.ensureTeam_eq_self hknown]
    exact ⟨hsame, congrArg ArrayView.ofArray hsame⟩
  · have hteams : a.tree.ensureTeam id.team =
        { a.tree with teams := a.tree.teams ++ [.empty id.team spec.antennas] } := by
      rw [SensorTree.ensureTeam_of_new hnew, ← hserved.antennas]
    have hmore : after = { a with
        tree.teams := a.tree.teams ++ [.empty id.team spec.antennas] } := by
      rw [hafter, hteams]
    exact ⟨hmore, congrArg ArrayView.ofArray hmore⟩
  · rw [hafter]
    exact a.tree.sensor?_ensureTeam id.team

/-! ### An array with two antennas -/

def pairSpec : Announcement := ⟨"pair", 7148, 7149, 2⟩

def pairWorld : World ScriptedNetwork :=
  ⟨⟨[.new "cmc:7148" none, .new "cmc:7149" none]⟩, .zero⟩

/-- A sensor is added to the second channeliser. -/
def pairActs : List (ArrayAct ScriptedNetwork) := [.add (.host ⟨'f', 1⟩ "power" "volts")]

def pair : CorrelatorArray :=
  ((start pairSpec "cmc" ⟨[], defaultEnginesPerHost⟩ 0 ⟨0, "cmc:7148"⟩ ⟨1, "cmc:7149"⟩
    pairWorld).run pairActs).array

theorem failed_addition_leaves_pair :
    let after := (pair.ensureSensor (.host ⟨'z', 9⟩ "power" "volts")).1
    (pair.ensureSensor (.host ⟨'z', 9⟩ "power" "volts")).2 =
        .error (.tree (.noHost 'z' 9 2)) ∧
      'z' ∉ pair.tree.kinds ∧
      after = { pair with tree.teams := pair.tree.teams ++ [.empty 'z' 2] } ∧
      pair.ensureSensor (.engine ⟨'f', 2⟩ "wide" "power" "volts") =
        (pair, .error (.tree (.noHost 'f' 2 2))) := by
  have hnew : (pair.ensureSensor (.host ⟨'z', 9⟩ "power" "volts")).2 =
      .error (.tree (.noHost 'z' 9 2)) := by decide +kernel
  have hknown : (pair.ensureSensor (.engine ⟨'f', 2⟩ "wide" "power" "volts")).2 =
      .error (.tree (.noHost 'f' 2 2)) := by decide +kernel
  have hletter : 'z' ∉ pair.tree.kinds := by decide +kernel
  have hleaves := failed_addition_leaves pairSpec "cmc" ⟨[], defaultEnginesPerHost⟩ 0
    ⟨0, "cmc:7148"⟩ ⟨1, "cmc:7149"⟩ pairWorld pairActs
  obtain ⟨-, -, hmore, -⟩ := hleaves ⟨'z', 9⟩ (.device "power" "volts") hnew
  obtain ⟨-, hsame, -⟩ := hleaves ⟨'f', 2⟩ (.engine "wide" "power" "volts") hknown
  exact ⟨hnew, hletter, (hmore hletter).1, Prod.ext (hsame (by decide +kernel)).1 hknown⟩

/-- A failed addition does not always leave everything as it was: the array is shown with a team
that no sensor was added to. -/
theorem not_unchanged_by_failure :
    ¬ ∀ (spec : Announcement) (cmcAddress : String) (plan : Plan) (maxRetries : UInt32)
        (control monitor : Link) (world : World ScriptedNetwork)
        (acts : List (ArrayAct ScriptedNetwork)) (id : HostId) (place : HostPlace)
        (e : ArrayError),
      let a := ((start spec cmcAddress plan maxRetries control monitor world).run acts).array
      let after := (a.ensureSensor (place.path id)).1
      (a.ensureSensor (place.path id)).2 = .error e →
        after.tree.teams = a.tree.teams ∧ after.tree.top = a.tree.top ∧
          ArrayView.ofArray after = .ofArray a := by
  intro hall
  obtain ⟨hteams, -, -⟩ := hall pairSpec "cmc" ⟨[], defaultEnginesPerHost⟩ 0 ⟨0, "cmc:7148"⟩
    ⟨1, "cmc:7149"⟩ pairWorld pairActs ⟨'z', 9⟩ (.device "power" "volts")
    (.tree (.noHost 'z' 9 2)) (by decide +kernel)
  revert hteams
  decide +kernel

end ArrayMoment

end ArrayWatch
