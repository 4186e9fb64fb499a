import ArrayWatch.Proofs.ArrayList
import ArrayWatch.Proofs.LinkOwnership
import Mathlib.Data.List.Induction

/-!
# Arrays that came up

Both links of an array connect before they are closed. Reading alone would then never take the array
for one that did not come up, since a channel takes the events of its link in order. But a link that
is closed refuses requests at once, and a channel whose request is refused takes nothing more in.
Where such a request overtakes the completed connection, the channel is lost as one that had never
connected, and the array is dropped.

* `Heard`: what a channel has taken in of the events of its link.
* `CmcMoment.Followed`: the same for the channels of one array, through a run.
* `CmcMoment.failedToOpen_iff_overtaken`: the array is taken for one that did not come up if and
  only if a request overtook the connection; otherwise it stays until the CMC no longer lists it.
* `CmcMoment.connected_not_always_kept`: an array that is dropped though both links had connected.
-/

namespace ArrayWatch

/-! ## What a link reports -/

/-- Nothing is closed that was not connected before. -/
def ConnectsFirst (events : List LinkEvent) : Prop :=
  ∀ before reason after, events = before ++ .closed reason :: after → .connected ∈ before

theorem ConnectsFirst.of_append {events more : List LinkEvent}
    (h : ConnectsFirst (events ++ more)) : ConnectsFirst events := by
  rintro before reason after rfl
  apply h before reason (after ++ more)
  rw [List.append_assoc, List.cons_append]

theorem connectsFirst_line {m : Message} {rest : List LinkEvent} :
    ConnectsFirst (.line m :: rest) ↔ ConnectsFirst rest := by
  constructor
  · rintro h before reason after rfl
    have hmem := h (.line m :: before) reason after rfl
    exact (List.mem_cons.1 hmem).resolve_left nofun
  · intro h before reason after hsplit
    cases before with
    | nil => cases hsplit
    | cons event before =>
      obtain ⟨-, hrest⟩ := List.cons.inj hsplit
      exact List.mem_cons_of_mem _ (h before reason after hrest)

/-- It is enough to look at the first event that is not a line. -/
theorem connectsFirst_iff {events : List LinkEvent} :
    ConnectsFirst events ↔ (events.any LinkEvent.isClosed = true → connects events = true) := by
  induction events with
  | nil =>
    refine iff_of_true (fun before reason after hsplit => ?_) nofun
    exact absurd hsplit.symm (List.append_ne_nil_of_right_ne_nil _ (List.cons_ne_nil _ _))
  | cons event rest ih =>
    cases event with
    | connected =>
      refine iff_of_true (fun before reason after hsplit => ?_) fun _ => rfl
      cases before with
      | nil => cases hsplit
      | cons first before =>
        obtain ⟨rfl, -⟩ := List.cons.inj hsplit
        exact List.mem_cons_self
    | line m => exact connectsFirst_line.trans ih
    | closed reason =>
      refine iff_of_false (fun h => ?_) fun h => absurd (h rfl) nofun
      exact absurd (h [] reason rest rfl) List.not_mem_nil

theorem connects_append {events more : List LinkEvent}
    (hopen : events.any LinkEvent.isClosed = false) :
    connects (events ++ more) = (connects events || connects more) := by
  induction events with
  | nil => rfl
  | cons event rest ih =>
    cases event with
    | connected => rfl
    | line m => exact ih hopen
    | closed reason => contradiction

theorem mem_of_connects {events : List LinkEvent} (h : connects events = true) :
    .connected ∈ events := by
  induction events with
  | nil => contradiction
  | cons event rest ih =>
    cases event with
    | connected => exact List.mem_cons_self
    | line m => exact List.mem_cons_of_mem _ (ih h)
    | closed reason => contradiction

theorem reports_append (id : Nat) (script more : List ScriptAct) :
    reports id (script ++ more) = reports id script ++ reports id more :=
  List.filterMap_append

theorem reports_concat (id : Nat) (script : List ScriptAct) (s : ScriptAct) :
    reports id (script ++ [s]) = reports id script ++ (s.reported? id).toList := by
  rw [reports_append]
  unfold reports
  cases hs : s.reported? id <;> simp [hs]

theorem ConnectsFirst.of_reports_append {id : Nat} {script more : List ScriptAct}
    (h : ConnectsFirst (reports id (script ++ more))) : ConnectsFirst (reports id script) := by
  rw [reports_append] at h
  exact h.of_append

/-! ## What a channel has taken in -/

/-- What the channel of a link has come to, where these are all the events that the link reported. A
channel that is not lost has taken in the first of them, and the others are pending. -/
structure Heard (events : List LinkEvent) (l : ScriptedLink) (bearing : Bool × Bool) : Prop where
  broken : l.broken = events.any LinkEvent.isClosed
  up : bearing.1 = false → ∃ taken, events = taken ++ l.pending ∧
    taken.any LinkEvent.isClosed = false ∧ bearing.2 = connects taken
  lost : bearing.1 = true → events.any LinkEvent.isClosed = true

/-- The link refuses a request though it had connected, and the channel has not taken that in. -/
def Channel.Overtaken (c : Channel) (l : ScriptedLink) : Prop :=
  c.Refused l ∧ c.hasConnected = false ∧ .connected ∈ l.pending

namespace Heard

variable {events : List LinkEvent} {l l' : ScriptedLink} {bearing after : Bool × Bool}

theorem play (h : Heard events l bearing) (move : LinkMove) :
    Heard (events ++ move.reported?.toList) (l.play move) bearing := by
  refine ⟨?_, fun hup => ?_, fun hdown => ?_⟩
  · rw [List.any_append, ← h.broken]
    cases move with
    | close reason => exact (Bool.or_true _).symm
    | _ => exact (Bool.or_false _).symm
  · obtain ⟨taken, hevents, hopen, hconnected⟩ := h.up hup
    refine ⟨taken, ?_, hopen, hconnected⟩
    rw [ScriptedLink.pending_play, hevents, List.append_assoc]
  · rw [List.any_append, h.lost hdown, Bool.true_or]

theorem onLink (h : Heard events l bearing) (s : ScriptAct) (id : Nat) :
    Heard (events ++ (s.reported? id).toList) (s.onLink id l) bearing := by
  cases s with
  | remote other move =>
    by_cases hid : other = id
    · have hreported : (ScriptAct.remote other move).reported? id = move.reported? := if_pos hid
      have hplayed : (ScriptAct.remote other move).onLink id l = l.play move := if_pos hid
      rw [hreported, hplayed]
      exact h.play move
    · have hreported : (ScriptAct.remote other move).reported? id = none := if_neg hid
      have hsame : (ScriptAct.remote other move).onLink id l = l := if_neg hid
      rw [hreported, hsame]
      exact (List.append_nil events).symm ▸ h
  | _ => exact (List.append_nil events).symm ▸ h

/-- Reading never takes a channel for one that had not connected. -/
theorem tookIn (hfirst : ConnectsFirst events) (h : Heard events l bearing)
    (htook : Channel.TookIn bearing after l l') :
    Heard events l' after ∧ (after = (true, false) ↔ bearing = (true, false)) := by
  rcases htook with ⟨-, rfl, rfl⟩ | ⟨hup, rfl, rfl⟩
  · exact ⟨h, Iff.rfl⟩
  · obtain ⟨taken, hevents, hopen, hconnected⟩ := h.up hup
    have hclosed : l.pending.any LinkEvent.isClosed = events.any LinkEvent.isClosed := by
      rw [hevents, List.any_append, hopen, Bool.false_or]
    have hall : (bearing.2 || connects l.pending) = connects events := by
      rw [hevents, connects_append hopen, hconnected]
    rw [hclosed, hall]
    refine ⟨⟨h.broken, fun hup' => ⟨events, (List.append_nil _).symm, hup', rfl⟩, id⟩, ?_⟩
    refine iff_of_false (fun hnever => ?_) fun hbefore => ?_
    · obtain ⟨hlost, hunconnected⟩ := Prod.mk.inj hnever
      exact absurd (hunconnected.symm.trans (connectsFirst_iff.1 hfirst hlost)) nofun
    · rw [hbefore] at hup
      contradiction

/-- Handing over takes a channel for one that had not connected if it is overtaken. -/
theorem handedOver {c c' : Channel} (hfirst : ConnectsFirst events) (h : Heard events l c.bearing)
    (hover : c.HandedOver c' l l') :
    Heard events l' c'.bearing ∧
      (c'.bearing = (true, false) ↔ c.bearing = (true, false) ∨ c.Overtaken l) := by
  obtain ⟨hpending, hbroken, ⟨hrefused, hafter⟩ | ⟨hnot, hsame⟩⟩ := hover
  · have hup : c.bearing.1 = false := hrefused.isDisconnected_eq_false
    have hclosed : events.any LinkEvent.isClosed = true := h.broken.symm.trans hrefused.1
    obtain ⟨taken, hevents, hopen, hconnected⟩ := h.up hup
    rw [hafter]
    refine ⟨⟨hbroken.trans h.broken, nofun, fun _ => hclosed⟩, fun hnever => ?_, ?_⟩
    · have hunconnected : c.hasConnected = false := (Prod.mk.inj hnever).2
      have hall : connects events = true := connectsFirst_iff.1 hfirst hclosed
      have hnone : connects taken = false := hconnected.symm.trans hunconnected
      rw [hevents, connects_append hopen, hnone, Bool.false_or] at hall
      exact .inr ⟨hrefused, hunconnected, mem_of_connects hall⟩
    · rintro (hbefore | ⟨-, hunconnected, -⟩)
      · rw [hbefore] at hup
        contradiction
      · rw [hunconnected]
  · have hnever : ¬ c.Overtaken l := fun hovertaken => hnot hovertaken.1
    rw [hsame]
    refine ⟨⟨hbroken.trans h.broken, ?_, h.lost⟩, (or_iff_left hnever).symm⟩
    rw [hpending]
    exact h.up

end Heard

namespace CmcMoment

open CorrelatorArray (Kept)

variable {m m' now next : CmcMoment ScriptedNetwork} {s : ScriptAct} {script : List ScriptAct}
  {i : ArrayIdentity} {side : ArraySide} {a : CorrelatorArray}

/-! ## Requests that overtake a connection -/

/-- A request of the array would overtake the connection, were it handed over now. -/
def Overtaken (m : CmcMoment ScriptedNetwork) (i : ArrayIdentity) (side : ArraySide) : Prop :=
  ∃ a ∈ m.server.arrays, a.identity = i ∧
    ∃ l, m.link? (i.link side).id = some l ∧ (a.channel side).Overtaken l

/-- In the course of a script requests are handed over, and one overtakes the connection. -/
def OvertakenDuring (m : CmcMoment ScriptedNetwork) (script : List ScriptAct) (i : ArrayIdentity)
    (side : ArraySide) : Prop :=
  ∃ before after now, script = before ++ .flush :: after ∧
    m.run? (before.map ScriptAct.act) = some now ∧ now.Overtaken i side

theorem OvertakenDuring.append (h : m.OvertakenDuring script i side) (more : List ScriptAct) :
    m.OvertakenDuring (script ++ more) i side := by
  obtain ⟨before, after, now, rfl, hbefore, hover⟩ := h
  refine ⟨before, after ++ more, now, ?_, hbefore, hover⟩
  rw [List.append_assoc, List.cons_append]

theorem overtakenDuring_concat (hrun : m.run? (script.map ScriptAct.act) = some now) :
    m.OvertakenDuring (script ++ [s]) i side ↔
      m.OvertakenDuring script i side ∨ s = .flush ∧ now.Overtaken i side := by
  constructor
  · rintro ⟨before, after, now', hsplit, hbefore, hover⟩
    rcases List.eq_nil_or_concat after with rfl | ⟨after', last, rfl⟩
    · obtain ⟨rfl, hlast⟩ := List.append_inj' hsplit rfl
      obtain rfl := Option.some.inj (hrun.symm.trans hbefore)
      exact .inr ⟨List.head_eq_of_cons_eq hlast, hover⟩
    · have hsplit' : script ++ [s] = (before ++ .flush :: after') ++ [last] := by
        rw [hsplit, List.append_assoc, List.cons_append, List.concat_eq_append]
      obtain ⟨rfl, -⟩ := List.append_inj' hsplit' rfl
      exact .inl ⟨before, after', now', rfl, hbefore, hover⟩
  · rintro (h | ⟨rfl, hover⟩)
    · exact h.append [s]
    · exact ⟨script, [], now, rfl, hrun, hover⟩

/-! ## One array through a run -/

/-- What the two channels of the array have taken in since it was new, and which of them was
overtaken. -/
def Followed (m : CmcMoment ScriptedNetwork) (script : List ScriptAct) (i : ArrayIdentity)
    (now : CmcMoment ScriptedNetwork) : Prop :=
  ∀ a ∈ now.server.arrays, a.identity = i → ∀ side,
    ∃ l, now.link? (i.link side).id = some l ∧
      Heard (reports (i.link side).id script) l (a.channel side).bearing ∧
      ((a.channel side).bearing = (true, false) ↔ m.OvertakenDuring script i side)

/-- The script goes on by one part. -/
theorem followed_concat (hreach : now.Reachable) (hown : now.Owns i)
    (hrun : m.run? (script.map ScriptAct.act) = some now) (h : m.Followed script i now)
    (hnext : now.step? s.act = some next)
    (hfirst : ∀ side, ConnectsFirst (reports (i.link side).id (script ++ [s]))) :
    m.Followed (script ++ [s]) i next := by
  intro a ha hid side
  have hfirst' : ConnectsFirst (reports (i.link side).id script) :=
    (hfirst side).of_reports_append
  rw [overtakenDuring_concat hrun, reports_concat]
  by_cases hflush : s = .flush
  · subst hflush
    obtain ⟨b, hb, hsame, hsides⟩ := followed_flush hreach hown hnext ha hid
    obtain ⟨l, hl, hheard, hover⟩ := h b hb hsame side
    obtain ⟨l', hl', hhanded⟩ := hsides side l hl
    obtain ⟨hheard', hover'⟩ := hheard.handedOver hfirst' hhanded
    refine ⟨l', hl', (List.append_nil _).symm ▸ hheard', ?_⟩
    rw [hover', hover]
    refine or_congr_right ⟨fun hnow => ⟨rfl, b, hb, hsame, l, hl, hnow⟩, ?_⟩
    rintro ⟨-, c, hc, hsame', k, hk, hnow⟩
    have hname : c.name = b.name := CorrelatorArray.name_eq_of_identity (hsame'.trans hsame.symm)
    obtain rfl := eq_of_name_eq hreach hb hc hname
    obtain rfl := Option.some.inj (hl.symm.trans hk)
    exact hnow
  · have hnone : (m.OvertakenDuring script i side ∨ s = .flush ∧ now.Overtaken i side) ↔
        m.OvertakenDuring script i side := or_iff_left fun hnow => hflush hnow.1
    rw [hnone]
    by_cases hgather : ∃ time, s = .gather time
    · obtain ⟨time, rfl⟩ := hgather
      obtain ⟨b, hb, hsame, hsides⟩ := followed_gather hreach hown hnext ha hid
      obtain ⟨l, hl, hheard, hover⟩ := h b hb hsame side
      obtain ⟨l', hl', htook⟩ := hsides side l hl
      obtain ⟨hheard', hover'⟩ := hheard.tookIn hfirst' htook
      exact ⟨l', hl', (List.append_nil _).symm ▸ hheard', hover'.trans hover⟩
    · have hgather' : ∀ time, s ≠ .gather time := fun time hs => hgather ⟨time, hs⟩
      obtain ⟨b, hb, hsame, hsides⟩ := followed_step? hown hnext hflush hgather' ha hid
      obtain ⟨l, hl, hheard, hover⟩ := h b hb hsame side
      rw [hsides side]
      exact ⟨_, link?_step? hown hnext hflush hgather' side hl, hheard.onLink s _, hover⟩

/-! ### New arrays -/

/-- What can become of a CMC whose remote sides keep to a script. -/
def Scripted (m : CmcMoment ScriptedNetwork) : Prop :=
  ∃ address port plan maxRetries net metrics, ∃ script : List ScriptAct,
    (start address port plan maxRetries net metrics).run? (script.map ScriptAct.act) = some m

theorem Scripted.reachable (h : m.Scripted) : m.Reachable := by
  obtain ⟨address, port, plan, maxRetries, net, metrics, script, hrun⟩ := h
  exact ⟨address, port, plan, maxRetries, net, metrics, _, hrun⟩

theorem Scripted.inUse (h : m.Scripted) : m.InUse := by
  obtain ⟨address, port, plan, maxRetries, net, metrics, script, hrun⟩ := h
  exact inUse_run? hrun (inUse_start address port plan maxRetries net metrics)

/-- The array is new: it was not there before what was done last. -/
def Brought (m : CmcMoment ScriptedNetwork) (a : CorrelatorArray) : Prop :=
  ∃ (before : CmcMoment ScriptedNetwork) (s : ScriptAct), before.Scripted ∧
    before.step? s.act = some m ∧ a ∈ m.server.arrays ∧ a.name ∉ before.server.names

theorem Brought.mem (h : m.Brought a) : a ∈ m.server.arrays := by
  obtain ⟨before, s, -, -, ha, -⟩ := h
  exact ha

theorem Brought.reachable (h : m.Brought a) : m.Reachable := by
  obtain ⟨before, s, hscripted, hstep, -⟩ := h
  exact hscripted.reachable.step hstep

theorem Brought.owns (h : m.Brought a) : m.Owns a.identity := by
  obtain ⟨before, s, hscripted, hstep, ha, hnew⟩ := h
  obtain ⟨spec, -, -, hown⟩ := owns_created hscripted.inUse hstep ha hnew
  exact hown

theorem bearing_newcomer (m : CmcMoment ScriptedNetwork) (spec : Announcement) (side : ArraySide) :
    ((m.newcomer spec).1.channel side).bearing = (false, false) := by
  cases side with
  | control => exact Channel.bearing_advance _
  | monitor => exact Channel.bearing_advance _

theorem Brought.followed (h : m.Brought a) : m.Followed [] a.identity m := by
  have hreach := h.reachable
  obtain ⟨before, s, hscripted, hstep, ha, hnew⟩ := h
  obtain ⟨spec, rfl, hnet, -⟩ := owns_created hscripted.inUse hstep ha hnew
  intro b hb hid side
  obtain rfl := eq_of_name_eq hreach ha hb (CorrelatorArray.name_eq_of_identity hid)
  obtain ⟨-, l, hl, hpending, hbroken⟩ := (before.links_newcomer spec).2 side
  refine ⟨l, ?_, ?_⟩
  · unfold link?
    rw [hnet]
    exact hl
  rw [bearing_newcomer]
  refine ⟨⟨hbroken, fun _ => ⟨[], ?_, rfl, rfl⟩, nofun⟩, iff_of_false nofun ?_⟩
  · rw [hpending]
    rfl
  · rintro ⟨first, after, now, hsplit, -⟩
    exact absurd hsplit.symm (List.append_ne_nil_of_right_ne_nil _ (List.cons_ne_nil _ _))

theorem Brought.followed_run? (h : m.Brought a)
    (hrun : m.run? (script.map ScriptAct.act) = some now)
    (hfirst : ∀ side, ConnectsFirst (reports (a.identity.link side).id script)) :
    now.Owns a.identity ∧ m.Followed script a.identity now := by
  -- one more part at the end, since a script is told from where the array was new
  induction script using List.reverseRecOn generalizing now with
  | nil =>
    obtain rfl := Option.some.inj hrun
    exact ⟨h.owns, h.followed⟩
  | append_singleton script s ih =>
    rw [List.map_append, run?_append_eq_some] at hrun
    obtain ⟨middle, hmiddle, hlast⟩ := hrun
    obtain ⟨next, hnext, rfl⟩ : ∃ next, middle.step? s.act = some next ∧ next = now := by
      simpa [run?_cons_eq_some] using hlast
    have hfirst' : ∀ side, ConnectsFirst (reports (a.identity.link side).id script) :=
      fun side => (hfirst side).of_reports_append
    obtain ⟨hown, hfollowed⟩ := ih hmiddle hfirst'
    have hreach : middle.Reachable := h.reachable.run hmiddle
    exact ⟨owns_step? hnext hown, followed_concat hreach hown hmiddle hfollowed hnext hfirst⟩

/-! ## Staying in the list -/

theorem Followed.failedToOpen_iff (h : m.Followed script i now) (ha : a ∈ now.server.arrays)
    (hid : a.identity = i) :
    a.failedToOpen = true ↔ ∃ side, m.OvertakenDuring script i side := by
  rw [CorrelatorArray.failedToOpen_iff_exists]
  refine exists_congr fun side => ?_
  obtain ⟨l, -, -, hover⟩ := h a ha hid side
  exact hover

/-- When everything that its links reported has been taken in, an array is functional unless one of
them was closed. -/
theorem Followed.isFunctional_iff (h : m.Followed script i now) (ha : a ∈ now.server.arrays)
    (hid : a.identity = i)
    (htaken : ∀ side l, now.link? (i.link side).id = some l → l.pending = []) :
    a.isFunctional = false ↔
      ∃ side reason, .closed reason ∈ reports (i.link side).id script := by
  rw [CorrelatorArray.isFunctional_eq_false_iff]
  refine exists_congr fun side => ?_
  obtain ⟨l, hl, hheard, -⟩ := h a ha hid side
  rw [← any_isClosed_iff]
  refine ⟨hheard.lost, fun hclosed => ?_⟩
  by_contra hup
  obtain ⟨taken, hevents, hopen, -⟩ := hheard.up (eq_false_of_ne_true hup)
  rw [htaken side l hl, List.append_nil] at hevents
  rw [← hevents, hclosed] at hopen
  contradiction

/-- In the course of a script the request for the list was answered, and the array was suspect then:
a poll had marked it, and the CMC had not listed it since. -/
def LeftOut (m : CmcMoment ScriptedNetwork) (script : List ScriptAct) (a : CorrelatorArray) :
    Prop :=
  ∃ before answer after now,
    script = before ++ .handle (.reply CmcServer.arrayListRequest answer) :: after ∧
      m.run? (before.map ScriptAct.act) = some now ∧ answer.isOkReply = true ∧
      now.Answered CmcServer.arrayListRequest answer ∧
      ∃ a' ∈ now.server.arrays, Kept (Recorded ScriptedNetwork) a a' ∧ a'.liveness = .suspect

/-- What drops the array is a request that overtook the connection, or the end of a list. -/
theorem Brought.dropped (h : m.Brought a) (hdrop : m.DropsDuring (script.map ScriptAct.act) a)
    (hfirst : ∀ side, ConnectsFirst (reports (a.identity.link side).id script)) :
    (∃ side, m.OvertakenDuring script a.identity side) ∨ m.LeftOut script a := by
  obtain ⟨acts, act, acts', now, hsplit, hbefore, a', ha', hkept, hdrops⟩ := hdrop
  obtain ⟨before, rest, rfl, rfl, hrest⟩ := List.map_eq_append_iff.1 hsplit
  obtain ⟨s, after, rfl, rfl, rfl⟩ := List.map_eq_cons_iff.1 hrest
  rcases hdrops with ⟨-, hfailed⟩ | ⟨answer, hact, hok, hanswered, hsuspect⟩
  · have hfirst' : ∀ side, ConnectsFirst (reports (a.identity.link side).id before) :=
      fun side => (hfirst side).of_reports_append
    obtain ⟨-, hfollowed⟩ := h.followed_run? hbefore hfirst'
    have hfailed' : a'.failedToOpen = true := (CmcMoment.failedToOpen_iff a').2 hfailed
    obtain ⟨side, hover⟩ := (hfollowed.failedToOpen_iff ha' hkept.identity).1 hfailed'
    exact .inl ⟨side, hover.append _⟩
  · have hs : s = .handle (.reply CmcServer.arrayListRequest answer) := by
      cases s with
      | handle event => exact congrArg ScriptAct.handle (CmcAct.handle.inj hact)
      | _ => contradiction
    subst hs
    exact .inr ⟨before, answer, after, now, rfl, hbefore, hok, hanswered, a', ha', hkept, hsuspect⟩

/-- Where both links of a new array connect before they are closed, the array is taken for one that
did not come up if and only if a request overtook the connection of one of them: it was handed over
to a link that was closed, while the completed connection waited to be taken in. If none did, the
array stays in the list until the CMC no longer lists it, and is functional unless a link was
closed. -/
theorem failedToOpen_iff_overtaken (h : m.Brought a)
    (hrun : m.run? (script.map ScriptAct.act) = some m')
    (hfirst : ∀ side, ConnectsFirst (reports (a.identity.link side).id script)) :
    (∀ a' ∈ m'.server.arrays, a'.identity = a.identity →
      (a'.failedToOpen = true ↔ ∃ side, m.OvertakenDuring script a.identity side) ∧
      ((∀ side l, m'.link? (a.identity.link side).id = some l → l.pending = []) →
        (a'.isFunctional = false ↔
          ∃ side reason, .closed reason ∈ reports (a.identity.link side).id script))) ∧
    (m'.Keeps a ∨ (∃ side, m.OvertakenDuring script a.identity side) ∨ m.LeftOut script a) := by
  obtain ⟨-, hfollowed⟩ := h.followed_run? hrun hfirst
  refine ⟨fun a' ha' hid => ⟨hfollowed.failedToOpen_iff ha' hid,
    hfollowed.isFunctional_iff ha' hid⟩, ?_⟩
  rcases keeps_run? h.reachable hrun h.mem with hkeeps | hdrop
  · exact .inl hkeeps
  · exact .inr (h.dropped hdrop hfirst)

/-! ## An array that is listed and lost again -/

/-- The CMC sends a line, and these events of its channel are acted on. -/
def hearing (line : Message) (events : List ChannelEvent) : List ScriptAct :=
  .remote 0 (.line line) :: .gather ⟨0⟩ :: .collect :: events.map .handle

/-- Everything up to the first announcement, which is still to be acted on. -/
def greeting : List ScriptAct :=
  [.remote 0 .connect, .gather ⟨0⟩, .collect, .finish, .flush] ++
    (CmcServer.seed.take 2).flatMap (fun request =>
      hearing request.accept [.reply request request.accept] ++ [.finish, .flush]) ++
    hearing alphaListed []

def listing : CmcMoment ScriptedNetwork :=
  (started.run? (greeting.map ScriptAct.act)).get (by decide +kernel)

theorem scripted_listing : listing.Scripted :=
  ⟨_, _, _, _, _, _, greeting, (Option.some_get _).symm⟩

/-- The array was announced. -/
def listed : CmcMoment ScriptedNetwork := listing.handle (.inform alphaListed) []

/-- The array that was announced, with its links. -/
def alphaArray : CorrelatorArray := (listing.newcomer alpha).1

theorem brought_alphaArray : listed.Brought alphaArray := by
  have hphase : listing.phase = .acting [.inform alphaListed] := by decide +kernel
  have hstep : listing.step? (.handle (.inform alphaListed)) = some listed :=
    step?_handle.2 ⟨[], hphase, rfl⟩
  exact ⟨listing, .handle (.inform alphaListed), scripted_listing, hstep, by decide +kernel,
    by decide +kernel⟩

/-- Both links connect, and one of them is closed. -/
def comesUp : List ScriptAct :=
  [.finish, .remote 1 .connect, .remote 2 .connect, .remote 1 (.close "gone")]

/-- The events are taken in before requests are handed over. -/
def inTime : List ScriptAct := comesUp ++ [.gather ⟨0⟩, .collect, .finish, .flush]

/-- Requests are handed over before the events are taken in. -/
def tooSoon : List ScriptAct := comesUp ++ [.flush]

def tooSoonThenTaken : List ScriptAct := comesUp ++ [.flush, .gather ⟨0⟩, .collect]

theorem connectsFirst_comesUp {quiet : List ScriptAct} (h : ∀ id, reports id quiet = [])
    (side : ArraySide) :
    ConnectsFirst (reports (alphaArray.identity.link side).id (comesUp ++ quiet)) := by
  have hsame : ∀ id, reports id (comesUp ++ quiet) = reports id comesUp := by
    intro id
    rw [reports_append, h id, List.append_nil]
  rw [hsame, connectsFirst_iff]
  cases side with
  | control => decide +kernel
  | monitor => decide +kernel

def lostInTime : CmcMoment ScriptedNetwork :=
  (listed.run? (inTime.map ScriptAct.act)).get (by decide +kernel)

def lostTooSoon : CmcMoment ScriptedNetwork :=
  (listed.run? (tooSoon.map ScriptAct.act)).get (by decide +kernel)

theorem run?_lostTooSoon : listed.run? (tooSoon.map ScriptAct.act) = some lostTooSoon :=
  (Option.some_get _).symm

def droppedTooSoon : CmcMoment ScriptedNetwork :=
  (listed.run? (tooSoonThenTaken.map ScriptAct.act)).get (by decide +kernel)

theorem pending_lostInTime (side : ArraySide) :
    ∀ l ∈ lostInTime.link? (alphaArray.identity.link side).id, l.pending = [] := by
  cases side with
  | control => decide +kernel
  | monitor => decide +kernel

/-- With the same events on its links, the array is overtaken by requests that are handed over too
soon, and stays in the list without being functional where they are taken in first. -/
theorem overtaken_iff_tooSoon :
    (∃ side, listed.OvertakenDuring tooSoon alphaArray.identity side) ∧
      (¬ ∃ side, listed.OvertakenDuring inTime alphaArray.identity side) ∧
      ∃ a ∈ lostInTime.server.arrays, a.identity = alphaArray.identity ∧
        a.isFunctional = false := by
  obtain ⟨hsoon, -⟩ := failedToOpen_iff_overtaken brought_alphaArray run?_lostTooSoon
    (connectsFirst_comesUp fun _ => rfl)
  have hrun : listed.run? (inTime.map ScriptAct.act) = some lostInTime := (Option.some_get _).symm
  obtain ⟨htime, -⟩ := failedToOpen_iff_overtaken brought_alphaArray hrun
    (connectsFirst_comesUp fun _ => rfl)
  obtain ⟨a, ha, hid, hfailed⟩ : ∃ a ∈ lostTooSoon.server.arrays,
      a.identity = alphaArray.identity ∧ a.failedToOpen = true := by decide +kernel
  obtain ⟨b, hb, hid', hopened⟩ : ∃ b ∈ lostInTime.server.arrays,
      b.identity = alphaArray.identity ∧ b.failedToOpen = false := by decide +kernel
  obtain ⟨hfailed_iff, hfunctional_iff⟩ := htime b hb hid'
  refine ⟨(hsoon a ha hid).1.1 hfailed, fun hover => ?_, b, hb, hid', ?_⟩
  · exact absurd (hopened.symm.trans (hfailed_iff.2 hover)) nofun
  · exact (hfunctional_iff pending_lostInTime).2 ⟨.control, "gone", by decide +kernel⟩

/-- An array whose links connect before they are closed is not always taken for one that came up,
nor does it always stay until the CMC no longer lists it. -/
theorem connected_not_always_kept :
    (¬ ∀ (m m' : CmcMoment ScriptedNetwork) (a : CorrelatorArray) (script : List ScriptAct),
      m.Brought a → m.run? (script.map ScriptAct.act) = some m' →
      (∀ side, ConnectsFirst (reports (a.identity.link side).id script)) →
      ∀ a' ∈ m'.server.arrays, a'.identity = a.identity → a'.failedToOpen = false) ∧
    ¬ ∀ (m m' : CmcMoment ScriptedNetwork) (a : CorrelatorArray) (script : List ScriptAct),
      m.Brought a → m.run? (script.map ScriptAct.act) = some m' →
      (∀ side, ConnectsFirst (reports (a.identity.link side).id script)) →
      m'.Keeps a ∨ m.LeftOut script a := by
  constructor
  · intro hall
    have hopened := hall listed lostTooSoon alphaArray tooSoon brought_alphaArray
      run?_lostTooSoon (connectsFirst_comesUp fun _ => rfl)
    revert hopened
    decide +kernel
  · intro hall
    have hstays := hall listed droppedTooSoon alphaArray tooSoonThenTaken brought_alphaArray
      (Option.some_get _).symm (connectsFirst_comesUp fun _ => rfl)
    rcases hstays with ⟨a, ha, -⟩ | ⟨before, answer, after, now, hsplit, -⟩
    · have hnone : droppedTooSoon.server.arrays = [] := by decide +kernel
      rw [hnone] at ha
      contradiction
    · have hanswer : .handle (.reply CmcServer.arrayListRequest answer) ∈ tooSoonThenTaken := by
        rw [hsplit]
        exact List.mem_append_right _ List.mem_cons_self
      simp [tooSoonThenTaken, comesUp] at hanswer

end CmcMoment

end ArrayWatch
