import ArrayWatch.Proofs.CmcReplies
import ArrayWatch.Proofs.Confirmation
import ArrayWatch.Proofs.Utf8Coding
import Mathlib.Data.List.Nodup
import Mathlib.Data.String.Basic

/-!
# The list of arrays

The arrays of a CMC stand in the order of their names, and every array has a name. An array that is
in the list stays there, announced as before, until one of two things happens: the CMC takes in what
came, and the array never came up; or the request for the list is answered, and the array is suspect
then. Nothing else removes an array: no poll, no lost connection, no new connection, no reply that
nobody waited for and no reply that says no.

* `CmcMoment.Drops`: the two ways to leave the list.
* `CmcMoment.drops_step?`: in every part of the work they are the only ones.
* `CmcMoment.array_list_orderly`: the whole law, for every moment and every run.
-/

namespace ArrayWatch

/-! ## Names -/

/-- An announcement that was read has a name. -/
theorem Announcement.name_ne_empty {m : Message} {spec : Announcement}
    (h : ofInform m = .ok spec) : spec.name ≠ "" := by
  unfold ofInform at h
  dsimp only at h
  split at h
  · contradiction
  · contradiction
  · contradiction
  · rename_i name endpoints hnonempty _ _
    have hname : spec.name = name := by
      split at h
      · contradiction
      · split at h
        · contradiction
        · split at h
          · contradiction
          · rw [← Except.ok.inj h]
    rw [hname]
    exact hnonempty

theorem ChannelEvent.name_ne_empty {event : ChannelEvent} {spec : Announcement}
    (h : event.announced? = some spec) : spec.name ≠ "" := by
  cases event with
  | reply request answer => contradiction
  | inform m =>
    unfold announced? at h
    dsimp only at h
    split at h
    · cases hread : Announcement.ofInform m with
      | error e => simp [hread, Except.toOption] at h
      | ok read =>
        obtain rfl : read = spec := by simpa [hread, Except.toOption] using h
        exact Announcement.name_ne_empty hread
    · contradiction

/-- The bytes of a name. -/
def nameBytes (name : String) : List UInt8 := Utf8.encode name.toList

theorem nameBytes_lt {name name' : String} (h : name < name') : nameBytes name < nameBytes name' :=
  Utf8.encode_lt_encode (String.lt_iff_toList_lt.1 h)

/-- Only what the CMC takes in and acts on may remove arrays. -/
def CmcAct.mayDrop {ν : Type} : CmcAct ν → Bool
  | collect | handle _ => true
  | _ => false

namespace CmcMoment

open CorrelatorArray (Kept)

variable {ν : Type} [Network ν] {m m' : CmcMoment ν} {act : CmcAct ν}

/-- Every array has a name. -/
def Named (m : CmcMoment ν) : Prop := ∀ name ∈ m.server.names, name ≠ ""

theorem named_step? (h : m.step? act = some m') (hnamed : m.Named) : m'.Named := by
  intro name hname
  rcases step?_cases h with ⟨-, -, rfl⟩ | ⟨spec, hspec, -, hserver, -⟩ | ⟨-, -, hserver, -⟩ |
    ⟨-, -, -, hcarries⟩
  · rw [CmcServer.names_pollArrayList] at hname
    exact hnamed name hname
  · rw [hserver] at hname
    rcases m.server.listArray_cases spec m.world.net with ⟨-, hlist⟩ | ⟨-, hlist⟩
    · rw [hlist, CmcServer.names_confirmArray] at hname
      exact hnamed name hname
    · rw [hlist] at hname
      obtain ⟨a, ha, rfl⟩ := CmcServer.mem_names.1 hname
      rcases CmcServer.mem_insertArray.1 ha with rfl | hold
      · cases act with
        | handle event => exact ChannelEvent.name_ne_empty hspec
        | _ => contradiction
      · exact hnamed _ (CmcServer.mem_names.2 ⟨a, hold, rfl⟩)
  · rw [hserver] at hname
    exact hnamed name ((List.filter_sublist.map _).subset hname)
  · exact hnamed name (hcarries.names_sublist.subset hname)

theorem named_of_reachable (h : m.Reachable) : m.Named := by
  obtain ⟨address, port, plan, maxRetries, net, metrics, acts, hrun⟩ := h
  exact run?_keeps (P := Named) (fun _ _ _ => named_step?) hrun nofun

/-- No two arrays have one name. -/
theorem eq_of_name_eq (h : m.Reachable) {a b : CorrelatorArray} (ha : a ∈ m.server.arrays)
    (hb : b ∈ m.server.arrays) (hname : b.name = a.name) : b = a := by
  have hsorted := sorted_of_reachable h
  have hnodup : m.server.names.Nodup := hsorted.imp String.ne_of_lt
  exact List.inj_on_of_nodup_map hnodup hb ha hname

/-! ## Leaving the list -/

/-- Removes an array: it lost a channel that had never connected, and the CMC takes in what came; or
it is suspect, and the request for the list is answered that was in flight. -/
def Drops (m : CmcMoment ν) (act : CmcAct ν) (a : CorrelatorArray) : Prop :=
  (act = .collect ∧
      ∃ c ∈ [a.control, a.monitor], c.isDisconnected = true ∧ c.hasConnected = false) ∨
    ∃ answer, act = .handle (.reply CmcServer.arrayListRequest answer) ∧
      answer.isOkReply = true ∧ m.Answered CmcServer.arrayListRequest answer ∧
      a.liveness = .suspect

/-- The array goes on. -/
def Keeps (m : CmcMoment ν) (a : CorrelatorArray) : Prop :=
  ∃ a' ∈ m.server.arrays, Kept (Recorded ν) a a'

theorem keeps_of_forall₂
    (h : List.Forall₂ (CorrelatorArray.Works (Recorded ν)) m.server.arrays m'.server.arrays)
    {a : CorrelatorArray} (ha : a ∈ m.server.arrays) : m'.Keeps a := by
  obtain ⟨a', ha', hworks⟩ := exists_after_of_forall₂ h ha
  exact ⟨a', ha', hworks.kept⟩

/-- An array that is filtered out leaves no other one with its name. -/
theorem not_mem_names_of_filter (h : m.Reachable) {keep : CorrelatorArray → Bool}
    (hfilter : m'.server.arrays = m.server.arrays.filter keep) {a : CorrelatorArray}
    (ha : a ∈ m.server.arrays) (hdrop : keep a = false) : a.name ∉ m'.server.names := by
  intro hname
  obtain ⟨b, hb, hsame⟩ := CmcServer.mem_names.1 hname
  rw [hfilter] at hb
  obtain ⟨hold, hkeep⟩ := List.mem_filter.1 hb
  obtain rfl := eq_of_name_eq h ha hold hsame
  exact absurd (hdrop.symm.trans hkeep) Bool.false_ne_true

theorem failedToOpen_iff (a : CorrelatorArray) : a.failedToOpen = true ↔
    ∃ c ∈ [a.control, a.monitor], c.isDisconnected = true ∧ c.hasConnected = false := by
  simp [CorrelatorArray.failedToOpen]

theorem not_drops (m : CmcMoment ν) (h : act.mayDrop = false) (a : CorrelatorArray) :
    ¬ m.Drops act a := by
  rintro (⟨rfl, -⟩ | ⟨answer, rfl, -⟩)
  · cases h
  · cases h

/-- An event removes the arrays that are suspect if it answers the request for the list, and none
otherwise. -/
theorem drops_handle {event : ChannelEvent} (hreach : m.Reachable) {todo : List ChannelEvent}
    (hphase : m.phase = .acting (event :: todo)) (a : CorrelatorArray) :
    m.Drops (.handle event) a ↔ event.endsList = true ∧ a.liveness = .suspect := by
  constructor
  · rintro (⟨hact, -⟩ | ⟨answer, hact, hok, hanswered, hsuspect⟩)
    · contradiction
    · obtain rfl := CmcAct.handle.inj hact
      obtain ⟨taken, rest, acts, before, after, -, -, -, -, hname, -⟩ := hanswered
      refine ⟨?_, hsuspect⟩
      show CmcServer.endsArrayList answer = true
      unfold CmcServer.endsArrayList
      rw [hname, hok]
      rfl
  · rintro ⟨hends, hsuspect⟩
    cases event with
    | inform message => contradiction
    | reply request answer =>
      have hanswered := answered_of_reachable hreach hphase
      have hrequest := hanswered.arrayListRequest hends
      subst hrequest
      have hok : answer.isOkReply = true := by
        have hboth := hends
        simp only [ChannelEvent.endsList, CmcServer.endsArrayList, Bool.and_eq_true] at hboth
        exact hboth.2
      exact .inr ⟨answer, rfl, hok, hanswered, hsuspect⟩

theorem keeps_listed {spec : Announcement} {a : CorrelatorArray} (ha : a ∈ m.server.arrays)
    (hserver : m'.server = (m.server.listArray spec m.world.net).1) : m'.Keeps a := by
  rcases m.server.listArray_cases spec m.world.net with ⟨-, hlist⟩ | ⟨-, hlist⟩
  · rw [hlist] at hserver
    by_cases hname : a.name = spec.name
    · refine ⟨a.markFine, ?_, CorrelatorArray.kept_markFine a⟩
      rw [hserver]
      exact List.mem_map.2 ⟨a, ha, if_pos hname⟩
    · refine ⟨a, ?_, .refl⟩
      rw [hserver]
      exact List.mem_map.2 ⟨a, ha, if_neg hname⟩
  · refine ⟨a, ?_, .refl⟩
    rw [hserver, hlist]
    exact CmcServer.mem_insertArray.2 (.inr ha)

/-- Each part of the work removes the arrays that it drops, and keeps every other one. -/
theorem drops_step? (hreach : m.Reachable) (h : m.step? act = some m') {a : CorrelatorArray}
    (ha : a ∈ m.server.arrays) :
    m.Drops act a ∧ a.name ∉ m'.server.names ∨ ¬ m.Drops act a ∧ m'.Keeps a := by
  cases act with
  | poll =>
    obtain ⟨-, rfl⟩ := step?_poll.1 h
    refine .inr ⟨m.not_drops rfl a, ?_⟩
    by_cases hup : m.server.isConnected
    · refine ⟨a.markSuspect, ?_, CorrelatorArray.kept_markSuspect a⟩
      simpa [CmcServer.pollArrayList, hup] using ⟨a, ha, rfl⟩
    · exact ⟨a, by simpa [CmcServer.pollArrayList, hup] using ha, .refl⟩
  | reconnect =>
    refine .inr ⟨m.not_drops rfl a, a, ?_, .refl⟩
    rwa [arrays_reconnect h]
  | flush =>
    obtain ⟨-, rfl⟩ := step?_flush.1 h
    exact .inr ⟨m.not_drops rfl a,
      keeps_of_forall₂ (World.forall₂_each CorrelatorArray.works_flush _ _) ha⟩
  | gather now =>
    obtain ⟨-, rfl⟩ := step?_gather.1 h
    exact .inr ⟨m.not_drops rfl a,
      keeps_of_forall₂ (World.forall₂_each (fun a w => a.works_receive now w) _ _) ha⟩
  | collect =>
    obtain ⟨-, rfl⟩ := step?_collect.1 h
    have hfilter : m.collect.server.arrays = m.server.arrays.filter (!·.failedToOpen) := rfl
    by_cases hfailed : a.failedToOpen = true
    · exact .inl ⟨.inl ⟨rfl, (failedToOpen_iff a).1 hfailed⟩,
        not_mem_names_of_filter hreach hfilter ha (by simp [hfailed])⟩
    · refine .inr ⟨?_, a, ?_, .refl⟩
      · rintro (⟨-, hnever⟩ | ⟨answer, hact, -⟩)
        · exact hfailed ((failedToOpen_iff a).2 hnever)
        · contradiction
      · rw [hfilter]
        exact List.mem_filter.2 ⟨ha, by simp [hfailed]⟩
  | handle event =>
    obtain ⟨todo, hphase, rfl⟩ := step?_handle.1 h
    have hdrops := drops_handle hreach hphase a
    rcases m.server.event_cases m.world event with ⟨spec, -, hopen, hserver, -⟩ |
      ⟨-, hends, hserver, -⟩ | ⟨-, hopen, hserver, -⟩
    · refine .inr ⟨fun hdrop => ?_, keeps_listed ha hserver⟩
      exact absurd (hopen.symm.trans (hdrops.1 hdrop).1) Bool.false_ne_true
    · have hfilter : (m.handle event todo).server.arrays =
          m.server.arrays.filter (!·.isSuspect) := congrArg CmcServer.arrays hserver
      by_cases hsuspect : a.liveness = .suspect
      · refine .inl ⟨hdrops.2 ⟨hends, hsuspect⟩, not_mem_names_of_filter hreach hfilter ha ?_⟩
        simp [CorrelatorArray.isSuspect, hsuspect]
      · refine .inr ⟨fun hdrop => hsuspect (hdrops.1 hdrop).2, a, ?_, .refl⟩
        rw [hfilter]
        exact List.mem_filter.2 ⟨ha, by simp [CorrelatorArray.isSuspect, hsuspect]⟩
    · refine .inr ⟨fun hdrop => ?_, a, ?_, .refl⟩
      · exact absurd (hopen.symm.trans (hdrops.1 hdrop).1) Bool.false_ne_true
      · have hsame : (m.handle event todo).server.arrays = m.server.arrays :=
          congrArg CmcServer.arrays hserver
        rwa [hsame]
  | finish =>
    obtain ⟨-, rfl⟩ := step?_finish.1 h
    exact .inr ⟨m.not_drops rfl a, a, ha, .refl⟩
  | remote move =>
    obtain rfl := step?_remote.1 h
    exact .inr ⟨m.not_drops rfl a, a, ha, .refl⟩

/-- In the course of a run the array came to be dropped. -/
def DropsDuring (m : CmcMoment ν) (acts : List (CmcAct ν)) (a : CorrelatorArray) : Prop :=
  ∃ before act after now, acts = before ++ act :: after ∧ m.run? before = some now ∧
    ∃ a' ∈ now.server.arrays, Kept (Recorded ν) a a' ∧ now.Drops act a'

theorem keeps_run? {acts : List (CmcAct ν)} (hreach : m.Reachable)
    (hrun : m.run? acts = some m') {a : CorrelatorArray} (ha : a ∈ m.server.arrays) :
    m'.Keeps a ∨ m.DropsDuring acts a := by
  induction acts generalizing m a with
  | nil =>
    obtain rfl := Option.some.inj hrun
    exact .inl ⟨a, ha, .refl⟩
  | cons act rest ih =>
    obtain ⟨next, hnext, hrest⟩ := run?_cons_eq_some.1 hrun
    rcases drops_step? hreach hnext ha with ⟨hdrop, -⟩ | ⟨-, a', ha', hkept⟩
    · exact .inr ⟨[], act, rest, m, rfl, rfl, a, ha, .refl, hdrop⟩
    · rcases ih (Reachable.step hreach hnext) hrest ha' with
        ⟨b, hb, hkept'⟩ | ⟨before, act', after, now, rfl, hbefore, b, hb, hkept', hdrop⟩
      · exact .inl ⟨b, hb, hkept.trans hkept'⟩
      · refine .inr ⟨act :: before, act', after, now, rfl, ?_, b, hb, hkept.trans hkept', hdrop⟩
        exact run?_cons_eq_some.2 ⟨next, hnext, hbefore⟩

/-- At every moment the arrays are in the order of the bytes of their names, so that no two have one
name, and each has a name. The next part of the work removes exactly those that it drops. In a whole
run an array stays in the list, announced as before, unless it comes to be dropped. -/
theorem array_list_orderly (hreach : m.Reachable) :
    (m.server.names.map nameBytes).Pairwise (· < ·) ∧ (∀ name ∈ m.server.names, name ≠ "") ∧
      (∀ act m', m.step? act = some m' → ∀ a ∈ m.server.arrays,
        (a.name ∉ m'.server.names ↔ m.Drops act a)) ∧
      ∀ acts m', m.run? acts = some m' → ∀ a ∈ m.server.arrays,
        (∃ a' ∈ m'.server.arrays, Kept (Recorded ν) a a' ∧ a'.spec = a.spec) ∨
          m.DropsDuring acts a := by
  have hsorted := sorted_of_reachable hreach
  refine ⟨?_, named_of_reachable hreach, ?_, ?_⟩
  · exact List.pairwise_map.2 (hsorted.imp nameBytes_lt)
  · intro act m' hstep a ha
    rcases drops_step? hreach hstep ha with ⟨hdrop, hgone⟩ | ⟨hstays, a', ha', hkept⟩
    · exact iff_of_true hgone hdrop
    · have hthere : a.name ∈ m'.server.names := CmcServer.mem_names.2 ⟨a', ha', hkept.name⟩
      exact iff_of_false (not_not_intro hthere) hstays
  · intro acts m' hrun a ha
    rcases keeps_run? hreach hrun ha with ⟨a', ha', hkept⟩ | hdropped
    · exact .inl ⟨a', ha', hkept, congrArg ArrayIdentity.spec hkept.identity⟩
    · exact .inr hdropped

/-! ## An array that is suspect at the end of a list -/

theorem reachable_ending : ending.Reachable := reachable_asking.run run?_ending

theorem array_list_orderly_ending : ending.Reachable ∧ ending.server.names = ["alpha"] ∧
    (ending.server.names.map nameBytes).Pairwise (· < ·) ∧
    ∀ a ∈ ending.server.arrays,
      ending.Drops (.handle (.reply CmcServer.arrayListRequest listEnded)) a := by
  obtain ⟨hsorted, -, hdrops, -⟩ := array_list_orderly reachable_ending
  refine ⟨reachable_ending, by decide +kernel, hsorted, fun a ha => ?_⟩
  let ended := ending.handle (.reply CmcServer.arrayListRequest listEnded) []
  have hstep : ending.step? (.handle (.reply CmcServer.arrayListRequest listEnded)) = some ended :=
    step?_handle.2 ⟨[], phase_ending, rfl⟩
  have hnone : ended.server.names = [] := by decide +kernel
  apply (hdrops _ ended hstep a ha).1
  rw [hnone]
  nofun

end CmcMoment

end ArrayWatch
