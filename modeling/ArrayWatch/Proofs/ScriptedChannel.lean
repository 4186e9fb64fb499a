import ArrayWatch.Proofs.ArrayChannels
import ArrayWatch.Proofs.CmcStep

/-!
# Channels over scripted links

What a channel and its link do to each other: reading takes everything that the link has, and
handing over loses the channel where the link refuses. No other link is touched. For an array this
holds of each of its two channels, since nothing but their links loses or connects them.

* `ScriptAct`: what happens next, where the remote sides keep to a script.
* `Channel.bearing_receive`: how a batch of events leaves a channel.
* `Channel.read_of_link?`, `Channel.flush_of_link?`: a channel and its link.
* `CorrelatorArray.receive_of_link?`, `CorrelatorArray.flush_of_link?`: the same for either side of
  an array.
-/

namespace ArrayWatch

/-! ## Scripts -/

/-- What the remote side of a link does. -/
inductive LinkMove where
  | connect
  | line (message : Message)
  | close (reason : String)
  /-- Messages are refused for now, or no longer. -/
  | block (on : Bool)
  | unflushed (on : Bool)
  deriving DecidableEq, Repr

/-- The event that a move of the remote side reports. -/
def LinkMove.reported? : LinkMove → Option LinkEvent
  | connect => some .connected
  | line message => some (.line message)
  | close reason => some (.closed reason)
  | block _ | unflushed _ => none

def ScriptedLink.play (l : ScriptedLink) : LinkMove → ScriptedLink
  | .connect => l.happen .connected
  | .line message => l.happen (.line message)
  | .close reason => l.close reason
  | .block on => { l with blocked := on }
  | .unflushed on => { l with unflushed := on }

theorem ScriptedLink.pending_play (l : ScriptedLink) (move : LinkMove) :
    (l.play move).pending = l.pending ++ move.reported?.toList := by
  cases move with
  | connect => rfl
  | line message => rfl
  | close reason => rfl
  | block on => exact (List.append_nil _).symm
  | unflushed on => exact (List.append_nil _).symm

/-- What happens next, where the remote sides keep to a script. -/
inductive ScriptAct where
  | poll
  | reconnect
  | flush
  | gather (now : Timestamp)
  | collect
  | handle (event : ChannelEvent)
  | finish
  | remote (id : Nat) (move : LinkMove)
  deriving DecidableEq, Repr

namespace ScriptAct

def act : ScriptAct → CmcAct ScriptedNetwork
  | poll => .poll
  | reconnect => .reconnect
  | flush => .flush
  | gather now => .gather now
  | collect => .collect
  | handle event => .handle event
  | finish => .finish
  | remote id move => .remote fun net => net.modify id fun link => link.play move

/-- The event that is reported on a link. -/
def reported? (id : Nat) : ScriptAct → Option LinkEvent
  | remote other move => if other = id then move.reported? else none
  | _ => none

/-- What becomes of a link on which nothing is done by its owner. -/
def onLink (id : Nat) : ScriptAct → ScriptedLink → ScriptedLink
  | remote other move, l => if other = id then l.play move else l
  | _, l => l

end ScriptAct

/-- The events that a script reports on a link, oldest first. -/
def reports (id : Nat) (script : List ScriptAct) : List LinkEvent :=
  script.filterMap (ScriptAct.reported? id)

/-! ## One link among others -/

theorem ScriptedNetwork.link?_modify (n : ScriptedNetwork) (id other : Nat)
    (f : ScriptedLink → ScriptedLink) :
    (n.modify id f).link? other = if id = other then (n.link? other).map f else n.link? other := by
  unfold modify link?
  dsimp only
  rw [List.getElem?_modify]
  split
  · rfl
  · exact id_map ..

namespace Recorded

/-- A link that was opened. -/
def link? (r : Recorded ScriptedNetwork) (id : Nat) : Option ScriptedLink := r.net.link? id

variable {r : Recorded ScriptedNetwork} {link : Link} {l : ScriptedLink} {id : Nat}

theorem link?_drain_of_ne (h : link.id ≠ id) : (Network.drain link r).2.link? id = r.link? id := by
  show (Network.drain link r.net).2.link? id = r.net.link? id
  simp only [Network.drain]
  split
  · rw [ScriptedNetwork.link?_modify, if_neg h]
  · rfl

theorem drain_of_link? (h : r.link? link.id = some l) :
    (Network.drain link r).1 = l.pending ∧
      (Network.drain link r).2.link? link.id = some { l with pending := [] } := by
  have hnet : r.net.link? link.id = some l := h
  have hdrain : Network.drain link r.net =
      (l.pending, r.net.modify link.id fun l => l.drain.2) := by
    simp only [Network.drain, hnet]
    rfl
  show (Network.drain link r.net).1 = l.pending ∧ (Network.drain link r.net).2.link? link.id = _
  rw [hdrain, ScriptedNetwork.link?_modify, if_pos rfl, hnet]
  exact ⟨rfl, rfl⟩

theorem link?_send_of_ne (h : link.id ≠ id) (m : Message) :
    (Network.send link m r).2.link? id = r.link? id := by
  show (Network.send link m r.net).2.link? id = r.net.link? id
  simp only [Network.send]
  split
  · dsimp only
    rw [ScriptedNetwork.link?_modify, if_neg h]
  · rfl

theorem send_of_link? (h : r.link? link.id = some l) (m : Message) :
    (Network.send link m r).1 = (l.send m).1 ∧
      (Network.send link m r).2.link? link.id = some (l.send m).2 := by
  have hnet : r.net.link? link.id = some l := h
  have hsend : Network.send link m r.net =
      ((l.send m).1, r.net.modify link.id fun _ => (l.send m).2) := by
    simp only [Network.send, hnet]
  show (Network.send link m r.net).1 = _ ∧ (Network.send link m r.net).2.link? link.id = _
  rw [hsend, ScriptedNetwork.link?_modify, if_pos rfl, hnet]
  exact ⟨rfl, rfl⟩

/-- A link that is opened has a number that no link had before. -/
theorem link?_openLink_self (host : String) (port : UInt16) (r : Recorded ScriptedNetwork) :
    r.link? (Network.openLink host port r).1.id = none ∧
      (Network.openLink host port r).2.link? (Network.openLink host port r).1.id =
        some (.new (peerText host port) (some (host, port))) := by
  refine ⟨List.getElem?_eq_none (Nat.le_refl _), ?_⟩
  exact List.getElem?_concat_length ..

theorem link?_openLink_of_some (h : r.link? id = some l) (host : String) (port : UInt16) :
    (Network.openLink host port r).2.link? id = some l ∧
      (Network.openLink host port r).1.id ≠ id := by
  have hlt : id < r.net.links.length := (List.getElem?_eq_some_iff.1 h).1
  refine ⟨?_, Nat.ne_of_gt hlt⟩
  exact (List.getElem?_append_left hlt).trans h

end Recorded

/-! ## Channels -/

def LinkEvent.isClosed : LinkEvent → Bool
  | closed _ => true
  | _ => false

theorem any_isClosed_iff {events : List LinkEvent} :
    events.any LinkEvent.isClosed = true ↔ ∃ reason, .closed reason ∈ events := by
  rw [List.any_eq_true]
  constructor
  · rintro ⟨event, hevent, hclosed⟩
    cases event with
    | closed reason => exact ⟨reason, hevent⟩
    | _ => contradiction
  · rintro ⟨reason, hevent⟩
    exact ⟨_, hevent, rfl⟩

/-- Whether the connection is completed before it is closed. -/
def connects : List LinkEvent → Bool
  | [] => false
  | .connected :: _ => true
  | .line _ :: rest => connects rest
  | .closed _ :: _ => false

namespace Channel

variable {c : Channel} {id : Nat}

theorem link?_read_of_ne (h : c.link.id ≠ id) (net : Recorded ScriptedNetwork) :
    (c.read net).2.2.link? id = net.link? id := by
  by_cases hdown : c.isDisconnected
  · rw [read_of_isDisconnected hdown]
  · rw [read_of_not_isDisconnected hdown]
    exact Recorded.link?_drain_of_ne h

theorem link?_write_of_ne (h : c.link.id ≠ id) (net : Recorded ScriptedNetwork) :
    (c.write net).2.2.link? id = net.link? id := by
  rcases write_cases c net with ⟨-, hsame⟩ | ⟨m, -, hsend⟩
  · rw [hsame]
  · rw [hsend]
    exact Recorded.link?_send_of_ne h m

theorem link?_flush_of_ne (h : c.link.id ≠ id) (w : World (Recorded ScriptedNetwork)) :
    (c.flush w).2.net.link? id = w.net.link? id := by
  show (c.flushCounted w.net).2.2.link? id = w.net.link? id
  have hkeep := @flushCounted_keeps (Recorded ScriptedNetwork) _
    (fun c' net => c'.link.id ≠ id ∧ net.link? id = w.net.link? id)
    (fun c' net hc' => ⟨by rw [link_write]; exact hc'.1, (link?_write_of_ne hc'.1 net).trans hc'.2⟩)
    c w.net ⟨h, rfl⟩
  exact hkeep.2

/-- No channel closes a link for good: a link that was opened is there whatever is done with it. -/
theorem isSome_link?_read (c : Channel) {net : Recorded ScriptedNetwork}
    (h : (net.link? id).isSome) : ((c.read net).2.2.link? id).isSome := by
  by_cases hid : c.link.id = id
  · by_cases hdown : c.isDisconnected
    · rwa [read_of_isDisconnected hdown]
    · rw [read_of_not_isDisconnected hdown]
      subst hid
      obtain ⟨l, hl⟩ := Option.isSome_iff_exists.1 h
      rw [(Recorded.drain_of_link? hl).2]
      rfl
  · rwa [link?_read_of_ne hid]

theorem isSome_link?_write (c : Channel) {net : Recorded ScriptedNetwork}
    (h : (net.link? id).isSome) : ((c.write net).2.2.link? id).isSome := by
  by_cases hid : c.link.id = id
  · rcases write_cases c net with ⟨-, hsame⟩ | ⟨m, -, hsend⟩
    · rwa [hsame]
    · rw [hsend]
      subst hid
      obtain ⟨l, hl⟩ := Option.isSome_iff_exists.1 h
      rw [(Recorded.send_of_link? hl m).2]
      rfl
  · rwa [link?_write_of_ne hid]

theorem isSome_link?_flush (c : Channel) {w : World (Recorded ScriptedNetwork)}
    (h : (w.net.link? id).isSome) : ((c.flush w).2.net.link? id).isSome := by
  show ((c.flushCounted w.net).2.2.link? id).isSome
  exact @flushCounted_keeps (Recorded ScriptedNetwork) _ (fun _ net => (net.link? id).isSome)
    (fun c' net hnet => isSome_link?_write c' hnet) c w.net h

/-- Whether a channel is lost, and whether it has been connected. -/
def bearing (c : Channel) : Bool × Bool := (c.isDisconnected, c.hasConnected)

@[simp] theorem bearing_push (c : Channel) (m : Message) : (c.push m).bearing = c.bearing := by
  have hdown := c.isDisconnected_push m
  have hup : (c.push m).hasConnected = c.hasConnected := by
    unfold push
    split <;> rfl
  exact Prod.ext hdown hup

theorem bearing_advance (c : Channel) : c.advance.bearing = (false, c.hasConnected) := by
  unfold advance bearing isDisconnected
  dsimp only
  split <;> rfl

theorem bearing_receiveMessage {c : Channel} (h : c.isDisconnected = false) (m : Message) :
    (c.receiveMessage m).1.bearing = c.bearing := by
  have hbearing : c.bearing = (false, c.hasConnected) := Prod.ext h rfl
  unfold receiveMessage
  split
  · rfl
  · unfold receiveReply
    split
    · rfl
    · dsimp only
      split
      · exact (bearing_advance _).trans hbearing.symm
      · unfold fail
        dsimp only
        split
        · exact (bearing_advance _).trans hbearing.symm
        · exact hbearing.symm
  · rfl

theorem bearing_receiveConnected {c : Channel} (h : c.isDisconnected = false) :
    c.receiveConnected.bearing = (false, true) := by
  unfold receiveConnected
  dsimp only
  split
  · exact bearing_advance _
  · exact Prod.ext h rfl

/-- A batch of events loses the channel if the connection was closed in it, and the channel has been
connected if it was before or has been since, but not after the close. -/
theorem bearing_receive {c : Channel} (h : c.isDisconnected = false) (batch : List LinkEvent) :
    (c.receive batch).1.bearing =
      (batch.any LinkEvent.isClosed, c.hasConnected || connects batch) := by
  induction batch generalizing c with
  | nil => exact Prod.ext h (Bool.or_false _).symm
  | cons event rest ih =>
    cases event with
    | connected =>
      have hconnected := bearing_receiveConnected h
      have hrest := ih (congrArg Prod.fst hconnected)
      have hup : c.receiveConnected.hasConnected = true := congrArg Prod.snd hconnected
      rw [hup, Bool.true_or] at hrest
      have hall : (c.hasConnected || connects (.connected :: rest)) = true := Bool.or_true _
      rw [hall]
      exact hrest
    | line m =>
      have hmessage := bearing_receiveMessage h m
      have hrest := ih ((congrArg Prod.fst hmessage).trans h)
      have hup : (c.receiveMessage m).1.hasConnected = c.hasConnected := congrArg Prod.snd hmessage
      rw [hup] at hrest
      exact hrest
    | closed reason => exact Prod.ext rfl (Bool.or_false _).symm

/-- A channel that is not lost takes everything that its link has for it, and bears up as it does
then. -/
def TookIn (before after : Bool × Bool) (l l' : ScriptedLink) : Prop :=
  before.1 = true ∧ after = before ∧ l' = l ∨
    before.1 = false ∧ l' = { l with pending := [] } ∧
      after = (l.pending.any LinkEvent.isClosed, before.2 || connects l.pending)

theorem read_of_link? {net : Recorded ScriptedNetwork} {l : ScriptedLink}
    (hl : net.link? c.link.id = some l) :
    ∃ l', (c.read net).2.2.link? c.link.id = some l' ∧
      TookIn c.bearing (c.read net).1.bearing l l' := by
  by_cases hdown : c.isDisconnected = true
  · rw [read_of_isDisconnected hdown]
    exact ⟨l, hl, .inl ⟨hdown, rfl, rfl⟩⟩
  · have hup : c.isDisconnected = false := by simpa using hdown
    obtain ⟨hevents, hdrained⟩ := Recorded.drain_of_link? hl
    rw [read_of_not_isDisconnected hdown, hevents]
    exact ⟨_, hdrained, .inr ⟨hup, rfl, bearing_receive hup _⟩⟩

/-- The link refuses the request that the channel has to hand over. -/
def Refused (c : Channel) (l : ScriptedLink) : Prop :=
  l.broken = true ∧ ∃ request, c.outgoing? = some request ∧ request.words ≠ []

theorem Refused.isDisconnected_eq_false {l : ScriptedLink} (h : c.Refused l) :
    c.isDisconnected = false := by
  obtain ⟨-, request, hrequest, -⟩ := h
  have hstate := (outgoing?_eq_some hrequest).1
  simp [isDisconnected, hstate]

/-- One attempt to write loses the channel if the link refuses, and changes neither what the link
has for the channel nor whether it is closed. -/
theorem write_of_link? {net : Recorded ScriptedNetwork} {l : ScriptedLink}
    (hl : net.link? c.link.id = some l) :
    (c.Refused l ∧ (c.write net).1 ≠ .ok true ∧ (c.write net).2.1 = c.disconnect ∧
        (c.write net).2.2.link? c.link.id = some l) ∨
      ¬ c.Refused l ∧ (c.write net).2.1.bearing = c.bearing ∧
        ((c.write net).2.1.outgoing? = none ∨ (c.write net).2.1 = c) ∧
        ∃ l', (c.write net).2.2.link? c.link.id = some l' ∧ l'.pending = l.pending ∧
          l'.broken = l.broken := by
  cases hout : c.outgoing? with
  | none =>
    have hwrite : c.write net = (.ok false, c, net) := by simp [write, hout]
    refine .inr ⟨?_, ?_⟩
    · rintro ⟨-, request, hrequest, -⟩
      exact absurd (hout.symm.trans hrequest) nofun
    · rw [hwrite]
      exact ⟨rfl, .inr rfl, l, hl, rfl, rfl⟩
  | some m =>
    by_cases hwords : m.words = []
    · have hwrite : c.write net = (.error .emptyMessage, c, net) := by simp [write, hout, hwords]
      refine .inr ⟨?_, ?_⟩
      · rintro ⟨-, request, hrequest, hnonempty⟩
        obtain rfl := Option.some.inj (hout.symm.trans hrequest)
        exact hnonempty hwords
      · rw [hwrite]
        exact ⟨rfl, .inr rfl, l, hl, rfl, rfl⟩
    · have hwrite : c.write net = ((c.answered (Network.send c.link m net).1).1,
          (c.answered (Network.send c.link m net).1).2, (Network.send c.link m net).2) := by
        simp [write, hout, hwords]
      obtain ⟨hanswer, hafter⟩ := Recorded.send_of_link? hl m
      rw [hwrite, hanswer, hafter]
      unfold ScriptedLink.send
      by_cases hbroken : l.broken = true
      · rw [if_pos hbroken]
        exact .inl ⟨⟨hbroken, m, hout, hwords⟩, nofun, rfl, rfl⟩
      · rw [if_neg hbroken]
        refine .inr ⟨fun hrefused => hbroken hrefused.1, ?_⟩
        by_cases hblocked : l.blocked = true
        · rw [if_pos hblocked]
          exact ⟨rfl, .inr rfl, l, rfl, rfl, rfl⟩
        · rw [if_neg hblocked]
          have hstate := (outgoing?_eq_some hout).1
          have hbearing : c.bearing = (false, c.hasConnected) := by
            simp [bearing, isDisconnected, hstate]
          exact ⟨hbearing.symm, .inl rfl, _, rfl, rfl, rfl⟩

/-- Handing requests over loses the channel if and only if the link refuses the first one. The link
keeps what it has for the channel. -/
def HandedOver (c c' : Channel) (l l' : ScriptedLink) : Prop :=
  l'.pending = l.pending ∧ l'.broken = l.broken ∧
    (c.Refused l ∧ c'.bearing = (true, c.hasConnected) ∨
      ¬ c.Refused l ∧ c'.bearing = c.bearing)

theorem flush_of_refused {w : World (Recorded ScriptedNetwork)} {l : ScriptedLink}
    (hl : w.net.link? c.link.id = some l) (h : c.Refused l) :
    (c.flush w).1 = c.disconnect ∧ (c.flush w).2.net.link? c.link.id = some l := by
  rcases write_of_link? hl with ⟨-, hresult, hdown, hafter⟩ | ⟨hnot, -⟩
  · obtain ⟨-, request, hrequest, -⟩ := h
    obtain ⟨hstate, hcurrent⟩ := outgoing?_eq_some hrequest
    have hwants : c.wantsWrite w.net = true := by simp [wantsWrite, hstate, hcurrent]
    unfold flush
    rw [flushCounted_of_not_taken hwants hresult]
    exact ⟨hdown, hafter⟩
  · exact absurd h hnot

theorem flush_of_not_refused {w : World (Recorded ScriptedNetwork)} {l : ScriptedLink}
    (hl : w.net.link? c.link.id = some l) (h : ¬ c.Refused l) :
    (c.flush w).1.bearing = c.bearing ∧
      ∃ l', (c.flush w).2.net.link? c.link.id = some l' ∧ l'.pending = l.pending ∧
        l'.broken = l.broken := by
  have hkeep := @flushCounted_keeps (Recorded ScriptedNetwork) _
    (fun c' net => c'.link = c.link ∧ c'.bearing = c.bearing ∧
      (c'.outgoing? = none ∨ c' = c) ∧ ∃ l', net.link? c.link.id = some l' ∧
        l'.pending = l.pending ∧ l'.broken = l.broken)
    (by
      rintro c' net ⟨hlink, hbearing, hidle, l', hl', hpending, hbroken⟩
      have hnot : ¬ c'.Refused l' := by
        rintro ⟨hdown, request, hrequest, hwords⟩
        rcases hidle with hnone | rfl
        · exact absurd (hnone.symm.trans hrequest) nofun
        · exact h ⟨hbroken.symm.trans hdown, request, hrequest, hwords⟩
      rw [← hlink] at hl' ⊢
      rcases write_of_link? hl' with
        ⟨hrefused, -⟩ | ⟨-, hsame, hidle', l'', hl'', hpending', hbroken'⟩
      · exact absurd hrefused hnot
      · refine ⟨link_write c' net, hsame.trans hbearing, ?_, l'', hl'', hpending'.trans hpending,
          hbroken'.trans hbroken⟩
        rcases hidle' with hnone | hstill
        · exact .inl hnone
        · rw [hstill]
          exact hidle)
    c w.net ⟨rfl, rfl, .inr rfl, l, hl, rfl, rfl⟩
  exact ⟨hkeep.2.1, hkeep.2.2.2⟩

theorem flush_of_link? {w : World (Recorded ScriptedNetwork)} {l : ScriptedLink}
    (hl : w.net.link? c.link.id = some l) :
    ∃ l', (c.flush w).2.net.link? c.link.id = some l' ∧ c.HandedOver (c.flush w).1 l l' := by
  by_cases h : c.Refused l
  · obtain ⟨hdown, hafter⟩ := flush_of_refused hl h
    refine ⟨l, hafter, rfl, rfl, .inl ⟨h, ?_⟩⟩
    rw [hdown]
    rfl
  · obtain ⟨hbearing, l', hl', hpending, hbroken⟩ := flush_of_not_refused hl h
    exact ⟨l', hl', hpending, hbroken, .inr ⟨h, hbearing⟩⟩

end Channel

/-! ## The two channels of an array -/

/-- One of the two channels of an array. -/
inductive ArraySide where
  | control | monitor
  deriving DecidableEq, Repr

theorem ArraySide.exists_iff {P : ArraySide → Prop} :
    (∃ side, P side) ↔ P .control ∨ P .monitor := by
  constructor
  · rintro ⟨side, h⟩
    cases side with
    | control => exact .inl h
    | monitor => exact .inr h
  · rintro (h | h)
    · exact ⟨.control, h⟩
    · exact ⟨.monitor, h⟩

def ArrayIdentity.link (i : ArrayIdentity) : ArraySide → Link
  | .control => i.control
  | .monitor => i.monitor

namespace CorrelatorArray

def channel (a : CorrelatorArray) : ArraySide → Channel
  | .control => a.control
  | .monitor => a.monitor

theorem link_channel (a : CorrelatorArray) (side : ArraySide) :
    (a.channel side).link = a.identity.link side := by
  cases side <;> rfl

/-- An array never came up if one of its channels was lost before it had connected. -/
theorem failedToOpen_iff_exists (a : CorrelatorArray) : a.failedToOpen = true ↔
    ∃ side, (a.channel side).bearing = (true, false) := by
  have hside : (∃ side, (a.channel side).bearing = (true, false)) ↔
      a.control.bearing = (true, false) ∨ a.monitor.bearing = (true, false) := ArraySide.exists_iff
  rw [hside]
  simp [failedToOpen, Channel.bearing]

theorem isFunctional_eq_false_iff (a : CorrelatorArray) :
    a.isFunctional = false ↔ ∃ side, (a.channel side).bearing.1 = true := by
  have hside : (∃ side, (a.channel side).bearing.1 = true) ↔
      a.control.isDisconnected = true ∨ a.monitor.isDisconnected = true := ArraySide.exists_iff
  rw [hside]
  cases hcontrol : a.control.isDisconnected with
  | false => simp [isFunctional, hcontrol]
  | true => simp [isFunctional, hcontrol]

/-- How the two channels of an array bear up. -/
def bearings (a : CorrelatorArray) : (Bool × Bool) × (Bool × Bool) :=
  (a.control.bearing, a.monitor.bearing)

theorem bearings_controlEvents (a : CorrelatorArray) (metrics : Metrics)
    (events : List ChannelEvent) :
    (a.controlEvents metrics events).1.bearings = a.bearings :=
  ofChannels_controlEvents Channel.bearing_push a metrics events

theorem bearings_monitorEvents (a : CorrelatorArray) (now : Timestamp) (metrics : Metrics)
    (events : List ChannelEvent) :
    (a.monitorEvents now metrics events).1.bearings = a.bearings :=
  ofChannels_monitorEvents Channel.bearing a now metrics events

/-! ### Receiving and handing over -/

section Sides

variable {a : CorrelatorArray} {w : World (Recorded ScriptedNetwork)} {l : ScriptedLink} {id : Nat}

theorem bearings_receiveControl (a : CorrelatorArray) (w : World (Recorded ScriptedNetwork)) :
    (a.receiveControl w).1.bearings = ((a.control.read w.net).1.bearing, a.monitor.bearing) :=
  bearings_controlEvents { a with control := (a.control.read w.net).1 } _ _

theorem bearings_receiveMonitor (a : CorrelatorArray) (now : Timestamp)
    (w : World (Recorded ScriptedNetwork)) :
    (a.receiveMonitor now w).1.bearings = (a.control.bearing, (a.monitor.read w.net).1.bearing) :=
  bearings_monitorEvents { a with monitor := (a.monitor.read w.net).1 } now _ _

/-- An array touches no links but its own two. -/
theorem link?_receive_of_ne (h : ∀ side, (a.identity.link side).id ≠ id) (now : Timestamp) :
    (a.receive now w).2.net.link? id = w.net.link? id := by
  have hlinks := identity_eq_of_standing (standing_receiveControl a w)
  have hmonitor : (a.receiveControl w).1.monitor.link.id ≠ id := by
    have hlink : (a.receiveControl w).1.monitor.link = a.monitor.link :=
      congrArg ArrayIdentity.monitor hlinks
    rw [hlink]
    exact h .monitor
  show ((a.receiveControl w).1.monitor.read (a.control.read w.net).2.2).2.2.link? id = _
  rw [Channel.link?_read_of_ne hmonitor, Channel.link?_read_of_ne (h .control)]

theorem link?_flush_of_ne (h : ∀ side, (a.identity.link side).id ≠ id) :
    (a.flush w).2.net.link? id = w.net.link? id := by
  show (a.monitor.flush (a.control.flush w).2).2.net.link? id = _
  have hcontrol : a.control.link.id ≠ id := h .control
  have hmonitor : a.monitor.link.id ≠ id := h .monitor
  rw [Channel.link?_flush_of_ne hmonitor, Channel.link?_flush_of_ne hcontrol]

theorem receive_of_link? (hapart : a.control.link.id ≠ a.monitor.link.id) (now : Timestamp)
    (side : ArraySide) (hl : w.net.link? (a.channel side).link.id = some l) :
    ∃ l', (a.receive now w).2.net.link? (a.channel side).link.id = some l' ∧
      Channel.TookIn (a.channel side).bearing ((a.receive now w).1.channel side).bearing l l' := by
  let first := (a.receiveControl w).1
  let net := (a.control.read w.net).2.2
  have hfirst := bearings_receiveControl a w
  have hlast : (a.receive now w).1.bearings =
      (first.control.bearing, (first.monitor.read net).1.bearing) :=
    bearings_receiveMonitor first now _
  have hlink : first.monitor.link = a.monitor.link :=
    congrArg ArrayIdentity.monitor (identity_eq_of_standing (standing_receiveControl a w))
  cases side with
  | control =>
    obtain ⟨l', hl', htook⟩ := Channel.read_of_link? hl
    refine ⟨l', ?_, ?_⟩
    · show (first.monitor.read net).2.2.link? a.control.link.id = some l'
      have hother : first.monitor.link.id ≠ a.control.link.id := by
        rw [hlink]
        exact hapart.symm
      rw [Channel.link?_read_of_ne hother]
      exact hl'
    · have hbearing : (a.receive now w).1.control.bearing = (a.control.read w.net).1.bearing :=
        (congrArg Prod.fst hlast).trans (congrArg Prod.fst hfirst)
      show Channel.TookIn a.control.bearing (a.receive now w).1.control.bearing l l'
      rwa [hbearing]
  | monitor =>
    have hnet : net.link? first.monitor.link.id = some l := by
      rw [hlink, Channel.link?_read_of_ne hapart]
      exact hl
    obtain ⟨l', hl', htook⟩ := Channel.read_of_link? hnet
    refine ⟨l', ?_, ?_⟩
    · show (first.monitor.read net).2.2.link? a.monitor.link.id = some l'
      rwa [← hlink]
    · have hbefore : first.monitor.bearing = a.monitor.bearing := congrArg Prod.snd hfirst
      have hafter : (a.receive now w).1.monitor.bearing = (first.monitor.read net).1.bearing :=
        congrArg Prod.snd hlast
      show Channel.TookIn a.monitor.bearing (a.receive now w).1.monitor.bearing l l'
      rwa [← hbefore, hafter]

theorem flush_of_link? (hapart : a.control.link.id ≠ a.monitor.link.id) (side : ArraySide)
    (hl : w.net.link? (a.channel side).link.id = some l) :
    ∃ l', (a.flush w).2.net.link? (a.channel side).link.id = some l' ∧
      (a.channel side).HandedOver ((a.flush w).1.channel side) l l' := by
  cases side with
  | control =>
    obtain ⟨l', hl', hover⟩ := Channel.flush_of_link? hl
    refine ⟨l', ?_, hover⟩
    show (a.monitor.flush (a.control.flush w).2).2.net.link? a.control.link.id = some l'
    rwa [Channel.link?_flush_of_ne hapart.symm]
  | monitor =>
    have hl' : (a.control.flush w).2.net.link? a.monitor.link.id = some l := by
      rwa [Channel.link?_flush_of_ne hapart]
    exact Channel.flush_of_link? hl'

/-- A link that was opened is there whatever an array does. -/
theorem isSome_link?_receive (a : CorrelatorArray) (now : Timestamp)
    (h : (w.net.link? id).isSome) : ((a.receive now w).2.net.link? id).isSome := by
  show (((a.receiveControl w).1.monitor.read (a.control.read w.net).2.2).2.2.link? id).isSome
  exact Channel.isSome_link?_read _ (Channel.isSome_link?_read a.control h)

theorem isSome_link?_flush (a : CorrelatorArray) (h : (w.net.link? id).isSome) :
    ((a.flush w).2.net.link? id).isSome := by
  show ((a.monitor.flush (a.control.flush w).2).2.net.link? id).isSome
  exact Channel.isSome_link?_flush _ (Channel.isSome_link?_flush a.control h)

end Sides

end CorrelatorArray

end ArrayWatch
