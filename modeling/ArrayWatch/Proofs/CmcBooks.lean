import ArrayWatch.Proofs.Bookkeeping
import Mathlib.Data.List.Nodup

/-!
# The books of a CMC server

A call to a server comes to the same in both sets of books, if what the arrays have counted that are
tracked no more is kept apart.

* `CmcServer.lost`: the arrays that are listed before a step and not after it.
* `CmcCall.departures`: the arrays that a call drops, and those that it removes as suspect.
* `Weights.ofServer_events`, `Weights.ofMetrics_events`: the events that a channel brought.
* `CmcCall.books_perform`: what a call comes to.
-/

namespace ArrayWatch

namespace CmcServer

/-! ## Arrays that are lost -/

/-- The arrays that are listed before a step and not after it. -/
def lost (before after : CmcServer) : List CorrelatorArray :=
  before.arrays.filter fun a => a.name ∉ after.names

section Events

variable {ν : Type} [Network ν]

/-- The arrays that events of the channel remove, one event after the other. -/
def removals (s : CmcServer) (w : World ν) : List ChannelEvent → List CorrelatorArray
  | [] => []
  | first :: rest =>
    s.lost (s.event w first).1 ++ (s.event w first).1.removals (s.event w first).2 rest

/-- The arrays that a call that receives drops because they never came up, and those that it then
removes. -/
def departures (s : CmcServer) (now : Timestamp) (w : World ν) :
    List CorrelatorArray × List CorrelatorArray :=
  let (arrays, w) := World.each (·.receive now ·) s.arrays w
  let gathered := { s with arrays }
  let opened := gathered.dropUnopened
  let (channel, events, net) := opened.channel.read w.net
  (gathered.lost opened, { opened with channel }.removals { w with net } events)

end Events

variable {s s' : CmcServer}

theorem lost_eq_nil (h : s.names ⊆ s'.names) : s.lost s' = [] := by
  refine List.filter_eq_nil_iff.2 fun a ha => ?_
  simpa using h (List.mem_map_of_mem ha)

/-- Of arrays with names of their own, those are lost that are filtered out. -/
theorem lost_filter (hsorted : s.names.Pairwise (· < ·)) (p : CorrelatorArray → Bool) :
    s.lost { s with arrays := s.arrays.filter p } = s.arrays.filter (!p ·) := by
  have hnodup : s.names.Nodup := hsorted.imp String.ne_of_lt
  refine List.filter_congr fun a ha => ?_
  have hname : a.name ∈ CmcServer.names { s with arrays := s.arrays.filter p } ↔ p a = true := by
    constructor
    · intro hmem
      obtain ⟨b, hb, hname⟩ := mem_names.1 hmem
      obtain ⟨hb, hp⟩ := List.mem_filter.1 hb
      obtain rfl := List.inj_on_of_nodup_map hnodup hb ha hname
      exact hp
    · exact fun hp => mem_names.2 ⟨a, List.mem_filter.2 ⟨ha, hp⟩, rfl⟩
  cases hp : p a with
  | true => simpa using hname.2 hp
  | false => simpa using fun hmem => Bool.false_ne_true (hp.symm.trans (hname.1 hmem))

section Events

variable {ν : Type} [Network ν]

/-- An event loses the arrays that are suspect, if it ends a list, and else none. -/
theorem lost_event (hsorted : s.names.Pairwise (· < ·)) (w : World ν) (event : ChannelEvent) :
    s.lost (s.event w event).1 =
      if event.endsList then s.arrays.filter CorrelatorArray.isSuspect else [] := by
  rcases s.event_cases w event with ⟨spec, -, hends, hserver, -⟩ | ⟨-, hends, hserver, -⟩ |
    ⟨-, hends, hserver, -⟩
  · rw [hserver, if_neg (by simp [hends])]
    refine lost_eq_nil ?_
    rcases s.listArray_cases spec w.net with ⟨-, hlist⟩ | ⟨-, hlist⟩
    · rw [hlist, names_confirmArray]
      exact List.Subset.refl _
    · rw [hlist]
      intro name hname
      obtain ⟨a, ha, rfl⟩ := mem_names.1 hname
      exact mem_names.2 ⟨a, mem_insertArray.2 (.inr ha), rfl⟩
  · rw [hserver, if_pos hends]
    refine (lost_filter hsorted _).trans (List.filter_congr fun a _ => ?_)
    exact Bool.not_not _
  · rw [hserver, if_neg (by simp [hends])]
    exact lost_eq_nil (List.Subset.refl _)

theorem sorted_event (hsorted : s.names.Pairwise (· < ·)) (w : World (Recorded ν))
    (event : ChannelEvent) : (s.event w event).1.names.Pairwise (· < ·) :=
  CmcMoment.sorted_step? (m := ⟨s, w, .acting [event]⟩)
    (CmcMoment.step?_handle.2 ⟨[], rfl, rfl⟩) hsorted

theorem isSuspect_of_mem_removals (hsorted : s.names.Pairwise (· < ·)) (w : World (Recorded ν))
    {events : List ChannelEvent} {a : CorrelatorArray} (ha : a ∈ s.removals w events) :
    a.isSuspect := by
  induction events generalizing s w with
  | nil => exact absurd ha List.not_mem_nil
  | cons event rest ih =>
    rcases List.mem_append.1 ha with hfirst | hrest
    · rw [s.lost_event hsorted] at hfirst
      split at hfirst
      · exact (List.mem_filter.1 hfirst).2
      · exact absurd hfirst List.not_mem_nil
    · exact ih (s.sorted_event hsorted w event) _ hrest

theorem sorted_dropUnopened (hsorted : s.names.Pairwise (· < ·)) :
    s.dropUnopened.names.Pairwise (· < ·) :=
  hsorted.sublist (List.filter_sublist.map _)

/-- The arrays that take what came for them keep their names. -/
theorem names_gathered (s : CmcServer) (now : Timestamp) (w : World ν) :
    names { s with arrays := (World.each (·.receive now ·) s.arrays w).1 } = s.names :=
  map_eq_of_forall₂ (R := CorrelatorArray.Works ν) (fun _ _ hab => hab.name)
    (World.forall₂_each (fun a w => a.works_receive now w) _ _)

/-- Only suspects are removed by a call that receives. -/
theorem isSuspect_of_mem_departures (hsorted : s.names.Pairwise (· < ·)) (now : Timestamp)
    (w : World (Recorded ν)) {a : CorrelatorArray} (ha : a ∈ (s.departures now w).2) :
    a.isSuspect := by
  let gathered := World.each (·.receive now ·) s.arrays w
  let opened : CmcServer := dropUnopened { s with arrays := gathered.1 }
  let read := opened.channel.read gathered.2.net
  have hnames : names { s with arrays := gathered.1 } = s.names := s.names_gathered now w
  let collected : CmcServer := { opened with channel := read.1 }
  have hcollected : collected.names.Pairwise (· < ·) := sorted_dropUnopened (hnames ▸ hsorted)
  exact isSuspect_of_mem_removals hcollected { gathered.2 with net := read.2.2 } ha

end Events

end CmcServer

namespace Weights

variable (k : Weights) {ν : Type} [Network ν] {s : CmcServer}

/-! ## Servers -/

/-- What a server and its arrays have counted. A connection that is opened again takes a link. -/
def ofServer (s : CmcServer) : Int :=
  k.ofChannel s.channel + k.ofArrays s.arrays + (k.reconnects + k.links) * s.reconnects

theorem ofArrays_append (first rest : List CorrelatorArray) :
    k.ofArrays (first ++ rest) = k.ofArrays first + k.ofArrays rest := by
  simp [ofArrays]

theorem ofArrays_filter (p : CorrelatorArray → Bool) (arrays : List CorrelatorArray) :
    k.ofArrays (arrays.filter p) + k.ofArrays (arrays.filter (!p ·)) = k.ofArrays arrays := by
  have hsplit := List.sum_map_filter_add_sum_map_filter_not (p · = true) k.ofArray arrays
  simpa [ofArrays] using hsplit

/-- Marks are not counted. -/
theorem ofArrays_map {mark : CorrelatorArray → CorrelatorArray}
    (hmark : ∀ a, k.ofArray (mark a) = k.ofArray a) (arrays : List CorrelatorArray) :
    k.ofArrays (arrays.map mark) = k.ofArrays arrays := by
  simp [ofArrays, Function.comp_def, hmark]

theorem ofArrays_insertArray (a : CorrelatorArray) (arrays : List CorrelatorArray) :
    k.ofArrays (CmcServer.insertArray a arrays) = k.ofArray a + k.ofArrays arrays := by
  induction arrays with
  | nil => simp [CmcServer.insertArray, ofArrays]
  | cons b rest ih =>
    unfold CmcServer.insertArray
    split
    · rfl
    · simp only [ofArrays, List.map_cons, List.sum_cons] at ih ⊢
      omega

theorem ofServer_pollArrayList (s : CmcServer) : k.ofServer s.pollArrayList = k.ofServer s := by
  have hmarks : k.ofArrays (s.arrays.map .markSuspect) = k.ofArrays s.arrays :=
    k.ofArrays_map (fun _ : CorrelatorArray => by rfl) s.arrays
  unfold CmcServer.pollArrayList
  split
  · simp only [ofServer, ofChannel_push, hmarks]
  · rfl

theorem books_reconnect (s : CmcServer) (w : World (Recorded (Tapped ν))) :
    k.Books w (s.reconnect w).2.2 (k.ofServer (s.reconnect w).2.1 - k.ofServer s) := by
  unfold CmcServer.reconnect
  split
  · refine ⟨List.prefix_refl _, fun _ => ?_⟩
    simp only [ofWorld, ofServer, ofMetrics_reconnected, ofChannel_reset,
      Recorded.opened_openLink, List.length_append, List.length_singleton, Nat.cast_add,
      Nat.cast_one]
    ring
  · exact (Books.refl w).of_eq (Int.sub_self _).symm

theorem books_flushServer (s : CmcServer) (w : World (Recorded (Tapped ν))) :
    k.Books w (s.flush w).2 (k.ofServer (s.flush w).1 - k.ofServer s) := by
  have hchannel := k.books_flush s.channel w
  have harrays := @books_each k _ _ _ (·.flush ·) k.books_flushArray s.arrays (s.channel.flush w).2
  refine (hchannel.trans harrays).of_eq ?_
  simp only [CmcServer.flush, ofServer, ofArrays]
  omega

/-! ## Events of a server -/

/-- Two links are opened for an array that is new. -/
theorem ofServer_listArray (s : CmcServer) (spec : Announcement) (net : Recorded ν) :
    k.ofServer (s.listArray spec net).1 + k.links * net.opened.length =
      k.ofServer s + k.links * (s.listArray spec net).2.opened.length := by
  rcases s.listArray_cases spec net with ⟨-, hlist⟩ | ⟨-, hlist⟩
  · rw [hlist, ofServer, ofServer]
    dsimp only [CmcServer.confirmArray]
    rw [k.ofArrays_map fun a => by split <;> rfl]
  · rw [hlist, ofServer, ofServer, ofArrays_insertArray]
    simp only [ofArray, CorrelatorArray.openLinks, CorrelatorArray.ofLinks, ofChannel_connected,
      Recorded.opened_openLink, List.length_append, List.length_singleton, Nat.cast_add,
      Nat.cast_one]
    ring

/-- What the arrays that are lost have counted is not forgotten. -/
theorem ofServer_event (hsorted : s.names.Pairwise (· < ·)) (w : World (Recorded ν))
    (event : ChannelEvent) :
    k.ofServer (s.event w event).1 + k.ofArrays (s.lost (s.event w event).1) +
        k.links * w.net.opened.length =
      k.ofServer s + k.links * (s.event w event).2.net.opened.length := by
  rw [s.lost_event hsorted]
  rcases s.event_cases w event with ⟨spec, -, hends, hserver, hnet⟩ | ⟨-, hends, hserver, hnet⟩ |
    ⟨-, hends, hserver, hnet⟩
  · rw [hserver, hnet, if_neg (by simp [hends])]
    refine Eq.trans ?_ (k.ofServer_listArray s spec w.net)
    simp [ofArrays]
  · have hsplit := k.ofArrays_filter CorrelatorArray.isSuspect s.arrays
    rw [hserver, hnet, if_pos hends]
    simp only [ofServer, CmcServer.pruneSuspects]
    omega
  · rw [hserver, hnet, if_neg (by simp [hends])]
    simp [ofArrays]

theorem ofMetrics_inform (s : CmcServer) (w : World ν) {m : Message} (h : k.Clear (.inform m)) :
    k.ofMetrics (s.inform m w).2.metrics = k.ofMetrics w.metrics + k.informs := by
  unfold CmcServer.inform
  split
  · rename_i hname
    rw [informs_eq_zero_of_clear h hname, Int.add_zero]
  · rename_i name hname
    rw [← k.ofMetrics_informReceived w.metrics name]
    dsimp only
    split
    · split
      · rfl
      · exact k.ofMetrics_malformed _ _ _
    · rfl

/-- Arrays that are removed are counted where a list ends. -/
theorem ofMetrics_event (hsorted : s.names.Pairwise (· < ·)) (w : World ν) {event : ChannelEvent}
    (h : k.Clear event) :
    k.ofMetrics (s.event w event).2.metrics = k.ofMetrics w.metrics + k.ofEvent event +
      k.pruned * (s.lost (s.event w event).1).length := by
  rw [s.lost_event hsorted]
  cases event with
  | inform m =>
    refine (k.ofMetrics_inform s w h).trans ?_
    simp [ofEvent, ChannelEvent.endsList]
  | reply request answer =>
    have hreply := k.ofMetrics_recordReply w.metrics request answer
    by_cases hends : CmcServer.endsArrayList answer
    · rw [if_pos (show (ChannelEvent.reply request answer).endsList from hends),
        ← List.countP_eq_length_filter]
      show _ = _ + k.pruned * (s.pruneSuspects.2 : Int)
      simp only [CmcServer.event, CmcServer.reply, if_pos hends]
      split
      · rename_i hnone
        rw [hreply, hnone, Nat.cast_zero, Int.mul_zero, Int.add_zero]
      · rw [ofMetrics_pruned, hreply]
    · rw [if_neg (show ¬ (ChannelEvent.reply request answer).endsList from hends)]
      simpa [CmcServer.event, CmcServer.reply, hends] using hreply

theorem delivered_event (s : CmcServer) (w : World (Recorded (Tapped ν))) (event : ChannelEvent) :
    (s.event w event).2.delivered = w.delivered := by
  rcases s.event_cases w event with ⟨spec, -, -, -, hnet⟩ | ⟨-, -, -, hnet⟩ | ⟨-, -, -, hnet⟩
  · rw [World.delivered, hnet]
    rcases s.listArray_cases spec w.net with ⟨-, hlist⟩ | ⟨-, hlist⟩
    · rw [hlist]
      rfl
    · rw [hlist]
      rfl
  · rw [World.delivered, hnet]
    rfl
  · rw [World.delivered, hnet]
    rfl

theorem delivered_events (s : CmcServer) (w : World (Recorded (Tapped ν)))
    (events : List ChannelEvent) : (s.events w events).2.delivered = w.delivered := by
  induction events generalizing s w with
  | nil => rfl
  | cons event rest ih => exact (ih _ _).trans (delivered_event s w event)

theorem ofServer_events (hsorted : s.names.Pairwise (· < ·)) (w : World (Recorded ν))
    (events : List ChannelEvent) :
    k.ofServer (s.events w events).1 + k.ofArrays (s.removals w events) +
        k.links * w.net.opened.length =
      k.ofServer s + k.links * (s.events w events).2.net.opened.length := by
  induction events generalizing s w with
  | nil => simp [CmcServer.events, CmcServer.removals, ofArrays]
  | cons event rest ih =>
    have hfirst := k.ofServer_event hsorted w event
    have hrest := ih (s.sorted_event hsorted w event) (s.event w event).2
    simp only [CmcServer.events, CmcServer.removals, ofArrays_append]
    omega

theorem ofMetrics_events (hsorted : s.names.Pairwise (· < ·)) (w : World (Recorded ν))
    {events : List ChannelEvent} (h : ∀ event ∈ events, k.Clear event) :
    k.ofMetrics (s.events w events).2.metrics = k.ofMetrics w.metrics + k.ofEvents events +
      k.pruned * (s.removals w events).length := by
  induction events generalizing s w with
  | nil => simp [CmcServer.events, CmcServer.removals, ofEvents]
  | cons event rest ih =>
    obtain ⟨hfirst, hrest⟩ := List.forall_mem_cons.1 h
    simp only [CmcServer.events, CmcServer.removals]
    rw [ih (s.sorted_event hsorted w event) (s.event w event).2 hrest,
      k.ofMetrics_event hsorted w hfirst, List.length_append, Nat.cast_add]
    simp only [ofEvents, List.map_cons, List.sum_cons]
    ring

/-! ## Calls of a server -/

/-- Once the arrays have taken what came for them, some of them are dropped, and the channel takes
what came from the CMC. -/
theorem books_collect (hsorted : s.names.Pairwise (· < ·)) (w : World (Recorded (Tapped ν))) :
    let opened := s.dropUnopened
    let read := opened.channel.read w.net
    let collected := { opened with channel := read.1 }
    let done := collected.events { w with net := read.2.2 } read.2.1
    let removed := collected.removals { w with net := read.2.2 } read.2.1
    k.Books w done.2
      (k.ofServer done.1 - k.ofServer s + k.ofArrays (s.lost opened) + k.ofArrays removed +
        k.pruned * removed.length) := by
  intro opened read collected done removed
  obtain ⟨hread, hclear⟩ := k.delivered_read s.channel w.net
  have hcollected : collected.names.Pairwise (· < ·) := CmcServer.sorted_dropUnopened hsorted
  have hdelivered : done.2.delivered = read.2.2.net.delivered :=
    delivered_events collected { w with net := read.2.2 } read.2.1
  refine ⟨hdelivered ▸ hread, fun hfair => ?_⟩
  rw [hdelivered] at hfair
  have hmetrics : k.ofMetrics done.2.metrics =
      k.ofMetrics w.metrics + k.ofEvents read.2.1 + k.pruned * removed.length :=
    k.ofMetrics_events hcollected { w with net := read.2.2 } (hclear hfair)
  have hserver : k.ofServer done.1 + k.ofArrays removed + k.links * read.2.2.opened.length =
      k.ofServer collected + k.links * done.2.net.opened.length :=
    k.ofServer_events hcollected { w with net := read.2.2 } read.2.1
  have hopened : read.2.2.opened = w.net.opened := s.channel.opened_read w.net
  -- what the channel took is in its own books, and its owner is about to enter it in the metrics
  have hchannel : k.ofChannel read.1 = k.ofChannel s.channel + k.ofEvents read.2.1 :=
    k.ofChannel_read s.channel w.net
  have harrays : k.ofArrays opened.arrays + k.ofArrays (s.lost opened) = k.ofArrays s.arrays := by
    rw [show s.lost opened = _ from CmcServer.lost_filter hsorted _]
    exact k.ofArrays_filter _ _
  have hbefore : k.ofServer s = k.ofChannel s.channel + k.ofArrays s.arrays +
      (k.reconnects + k.links) * s.reconnects := rfl
  have hafter : k.ofServer collected = k.ofChannel read.1 + k.ofArrays opened.arrays +
      (k.reconnects + k.links) * s.reconnects := rfl
  rw [hopened] at hserver
  simp only [ofWorld]
  omega

/-- What a call that receives comes to: what the arrays that are gone have counted is kept apart,
and those that were removed are counted. -/
theorem books_receive (hsorted : s.names.Pairwise (· < ·)) (now : Timestamp)
    (w : World (Recorded (Tapped ν))) :
    k.Books w (s.receive now w).2
      (k.ofServer (s.receive now w).1 - k.ofServer s + k.ofArrays (s.departures now w).1 +
        k.ofArrays (s.departures now w).2 + k.pruned * (s.departures now w).2.length) := by
  let gathered := World.each (·.receive now ·) s.arrays w
  have harrays : k.Books w gathered.2
      ((gathered.1.map k.ofArray).sum - (s.arrays.map k.ofArray).sum) :=
    books_each (k.books_receiveArray · now ·) s.arrays w
  have hnames : CmcServer.names { s with arrays := gathered.1 } = s.names := s.names_gathered now w
  have hrest := k.books_collect (s := { s with arrays := gathered.1 }) (hnames ▸ hsorted) gathered.2
  have hgathered : k.ofServer { s with arrays := gathered.1 } = k.ofChannel s.channel +
      (gathered.1.map k.ofArray).sum + (k.reconnects + k.links) * s.reconnects := rfl
  have hserver : k.ofServer s = k.ofChannel s.channel + (s.arrays.map k.ofArray).sum +
      (k.reconnects + k.links) * s.reconnects := rfl
  refine (harrays.trans hrest).of_eq ?_
  rw [hgathered, hserver]
  show _ + (k.ofServer (s.receive now w).1 - _ + k.ofArrays (s.departures now w).1 +
    k.ofArrays (s.departures now w).2 + k.pruned * (s.departures now w).2.length) = _
  omega

end Weights

/-! ## Calls -/

/-- What a server can be told to do. -/
inductive CmcCall where
  | poll
  | reconnect
  | flush
  | receive (now : Timestamp)
  deriving DecidableEq, Repr

namespace CmcCall

variable {ν : Type} [Network ν] {s : CmcServer}

def perform : CmcCall → CmcServer → World ν → CmcServer × World ν
  | poll, s, w => (s.pollArrayList, w)
  | reconnect, s, w => (s.reconnect w).2
  | flush, s, w => s.flush w
  | receive now, s, w => s.receive now w

/-- The arrays that a call drops because they never came up, and those that it removes. -/
def departures : CmcCall → CmcServer → World ν → List CorrelatorArray × List CorrelatorArray
  | receive now, s, w => s.departures now w
  | _, _, _ => ([], [])

/-- A call is made up of parts. -/
theorem run?_perform (c : CmcCall) (s : CmcServer) (w : World (Recorded ν)) :
    ∃ acts, CmcMoment.run? ⟨s, w, .resting⟩ acts =
      some ⟨(c.perform s w).1, (c.perform s w).2, .resting⟩ := by
  cases c with
  | poll => exact ⟨[.poll], rfl⟩
  | reconnect => exact ⟨[.reconnect], rfl⟩
  | flush => exact ⟨[.flush], rfl⟩
  | receive now =>
    obtain ⟨events, hrun⟩ := CmcMoment.run?_receive s w now
    exact ⟨_, hrun⟩

theorem sorted_perform (c : CmcCall) (hsorted : s.names.Pairwise (· < ·))
    (w : World (Recorded ν)) : (c.perform s w).1.names.Pairwise (· < ·) := by
  obtain ⟨acts, hrun⟩ := c.run?_perform s w
  exact CmcMoment.run?_keeps (P := fun m => m.server.names.Pairwise (· < ·))
    (fun _ _ _ => CmcMoment.sorted_step?) hrun hsorted

theorem isSuspect_of_mem_departures (c : CmcCall) (hsorted : s.names.Pairwise (· < ·))
    (w : World (Recorded ν)) {a : CorrelatorArray} (ha : a ∈ (c.departures s w).2) :
    a.isSuspect := by
  cases c with
  | receive now => exact s.isSuspect_of_mem_departures hsorted now w ha
  | poll => exact absurd ha List.not_mem_nil
  | reconnect => exact absurd ha List.not_mem_nil
  | flush => exact absurd ha List.not_mem_nil

/-- What a call comes to in both sets of books. -/
theorem books_perform (k : Weights) (c : CmcCall) (hsorted : s.names.Pairwise (· < ·))
    (w : World (Recorded (Tapped ν))) :
    k.Books w (c.perform s w).2
      (k.ofServer (c.perform s w).1 - k.ofServer s + k.ofArrays (c.departures s w).1 +
        k.ofArrays (c.departures s w).2 + k.pruned * (c.departures s w).2.length) := by
  have hnone (gain : Int) : gain = gain + k.ofArrays [] + k.ofArrays [] +
      k.pruned * ([] : List CorrelatorArray).length := by
    simp [Weights.ofArrays]
  cases c with
  | poll =>
    refine (Weights.Books.refl w).of_eq ?_
    show 0 = k.ofServer s.pollArrayList - k.ofServer s + _ + _ + _
    rw [k.ofServer_pollArrayList, Int.sub_self]
    exact hnone 0
  | reconnect => exact (k.books_reconnect s w).of_eq (hnone _)
  | flush => exact (k.books_flushServer s w).of_eq (hnone _)
  | receive now => exact k.books_receive hsorted now w

end CmcCall

end ArrayWatch
