import ArrayWatch.Proofs.ChannelFrame
import ArrayWatch.Proofs.RecordedNetwork

/-!
# Requests in order

A channel sends its requests one after the other. Whatever its owner, its link and the remote side
do, the requests that it was given are, in order, those that are done with, the one in flight and
those that wait. Its link gets each request that is done with at least once, then perhaps the one
in flight, and never a later one.

* `settle` reads off the events of a channel which requests are done with.
* `Channel.InOrder` is the invariant. `inOrder_receive`, `inOrder_push` and `inOrder_accepted` are
  its steps.
* `ChannelHistory.inOrder_run`: it holds along every run of a channel.
-/

namespace ArrayWatch

/-! ## Requests that are done with -/

/-- The requests that are done with, and how often the one after them has failed. -/
structure Settled where
  finished : List Message
  failures : UInt32

/-- A request is done with when a reply says ok, and when it has failed more often than it is sent
again. -/
def Settled.event (cap : UInt32) (s : Settled) : ChannelEvent → Settled
  | .inform _ => s
  | .reply request answer =>
    if answer.isOkReply ∨ (0 < cap ∧ cap < s.failures + 1) then ⟨s.finished ++ [request], 0⟩
    else ⟨s.finished, s.failures + 1⟩

/-- What the events of a channel settle. -/
def settle (cap : UInt32) (events : List ChannelEvent) : Settled :=
  events.foldl (Settled.event cap) ⟨[], 0⟩

theorem settle_append (cap : UInt32) (events : List ChannelEvent) (event : ChannelEvent) :
    settle cap (events ++ [event]) = (settle cap events).event cap event := by
  simp [settle]

/-- A reply that an event brings has the name of the request that it answers. -/
def ChannelEvent.Matches : ChannelEvent → Prop
  | inform _ => True
  | reply request answer => answer.kind = .reply ∧ request.name? = answer.name?

/-- Every request at least once, one after the other. -/
def SentInTurn (requests sent : List Message) : Prop :=
  ∃ counts : List Nat, counts.length = requests.length ∧ (∀ n ∈ counts, 0 < n) ∧
    sent = (counts.zipWith List.replicate requests).flatten

theorem sentInTurn_nil : SentInTurn [] [] := ⟨[], rfl, by simp, rfl⟩

theorem SentInTurn.snoc {requests sent : List Message} (h : SentInTurn requests sent)
    (m : Message) {n : Nat} (hn : 0 < n) :
    SentInTurn (requests ++ [m]) (sent ++ List.replicate n m) := by
  obtain ⟨counts, hlen, hpos, rfl⟩ := h
  refine ⟨counts ++ [n], by simp [hlen], ?_, ?_⟩
  · intro k hk
    rcases List.mem_append.1 hk with hk | hk
    · exact hpos k hk
    · rwa [List.mem_singleton.1 hk]
  · rw [List.zipWith_append hlen]
    simp

namespace Channel

/-! ## The invariant -/

/-- The requests that were asked for and the messages that were sent are in order, as far as the
events of the channel have settled them. -/
structure InOrder (cap : UInt32) (asked sent : List Message) (events : List ChannelEvent)
    (c : Channel) : Prop where
  maxRetries : c.maxRetries = cap
  failures : c.failures = (settle cap events).failures
  asked : asked = (settle cap events).finished ++ c.current.toList ++ c.queue.messages
  sent : ∃ turns copies, SentInTurn (settle cap events).finished turns ∧
    sent = turns ++ c.current.toList.flatMap (List.replicate copies) ∧
    (c.state = .waitResponse → 0 < copies)
  connecting : c.state = .waitConnect → c.current = none ∧ c.failures = 0
  idle : c.state = .monitor → c.current = none ∧ c.queue.messages = []

variable {cap : UInt32} {asked sent : List Message} {events : List ChannelEvent} {c : Channel}

/-- The next request is taken up when the one before is done with. -/
theorem inOrder_advance {done : List Message} (hcap : c.maxRetries = cap)
    (hsettled : settle cap events = ⟨done, 0⟩) (hasked : asked = done ++ c.queue.messages)
    (hsent : SentInTurn done sent) : InOrder cap asked sent events c.advance := by
  cases hq : c.queue.messages with
  | nil =>
    refine ⟨hcap, by simp [advance, hsettled], ?_, ⟨sent, 0, ?_⟩, ?_, ?_⟩ <;>
      simp [advance, MessageQueue.pop, hq, hsettled, hasked, hsent]
  | cons m rest =>
    refine ⟨hcap, by simp [advance, hsettled], ?_, ⟨sent, 0, ?_⟩, ?_, ?_⟩ <;>
      simp [advance, MessageQueue.pop, hq, hsettled, hasked, hsent]

/-! ## Receiving -/

/-- Whether a failure more makes the channel give the request in flight up. -/
def GivesUp (c : Channel) : Prop := 0 < c.maxRetries ∧ c.maxRetries < c.failures + 1

theorem inOrder_receiveConnected (h : InOrder cap asked sent events c) :
    InOrder cap asked sent events c.receiveConnected := by
  unfold receiveConnected
  dsimp only
  split
  · rename_i hstate
    obtain ⟨hcurrent, hfailures⟩ := h.connecting hstate
    obtain ⟨turns, copies, hturns, hsent, -⟩ := h.sent
    have hsettled : settle cap events = ⟨(settle cap events).finished, 0⟩ := by
      rw [← hfailures, h.failures]
    refine inOrder_advance h.maxRetries hsettled ?_ ?_
    · simpa [hcurrent] using h.asked
    · simpa [hsent, hcurrent] using hturns
  · exact ⟨h.maxRetries, h.failures, h.asked, h.sent, h.connecting, h.idle⟩

/-- A reply that leaves the request done with. -/
theorem inOrder_finish {request answer : Message} (h : InOrder cap asked sent events c)
    (hstate : c.state = .waitResponse) (hcurrent : c.current = some request)
    (hdone : answer.isOkReply ∨ c.GivesUp) (c' : Channel)
    (hcap : c'.maxRetries = c.maxRetries) (hqueue : c'.queue = c.queue) :
    InOrder cap asked sent (events ++ [.reply request answer]) c'.advance := by
  obtain ⟨turns, copies, hturns, hsent, hcopies⟩ := h.sent
  have hsettled : settle cap (events ++ [.reply request answer]) =
      ⟨(settle cap events).finished ++ [request], 0⟩ := by
    rw [settle_append, Settled.event, if_pos]
    rwa [← h.failures, ← h.maxRetries]
  refine inOrder_advance (hcap.trans h.maxRetries) hsettled ?_ ?_
  · rw [hqueue, h.asked, hcurrent]
    rfl
  · rw [hsent, hcurrent]
    simpa using hturns.snoc request (hcopies hstate)

/-- A reply after which the request is sent again. -/
theorem inOrder_retry {request answer : Message} (h : InOrder cap asked sent events c)
    (hfail : ¬ (answer.isOkReply ∨ c.GivesUp)) (c' : Channel)
    (hc' : c' = { c with
      stats := c'.stats, failures := c.failures + 1, state := .sendFrontOfQueue }) :
    InOrder cap asked sent (events ++ [.reply request answer]) c' := by
  obtain ⟨turns, copies, hturns, hsent, -⟩ := h.sent
  have hsettled : settle cap (events ++ [.reply request answer]) =
      ⟨(settle cap events).finished, (settle cap events).failures + 1⟩ := by
    rw [settle_append, Settled.event, if_neg]
    rwa [← h.failures, ← h.maxRetries]
  rw [hc']
  refine ⟨h.maxRetries, ?_, ?_, ⟨turns, copies, ?_, hsent, nofun⟩, nofun, nofun⟩
  · rw [hsettled, ← h.failures]
  · rw [hsettled]
    exact h.asked
  · rwa [hsettled]

theorem inOrder_receiveReply (h : InOrder cap asked sent events c) (answer : Message) :
    InOrder cap asked sent (events ++ (c.receiveReply answer).2) (c.receiveReply answer).1 := by
  unfold receiveReply
  cases hans : c.answeredBy? answer with
  | none =>
    simp only [List.append_nil]
    exact ⟨h.maxRetries, h.failures, h.asked, h.sent, h.connecting, h.idle⟩
  | some request =>
    obtain ⟨hstate, hcurrent, -⟩ := answeredBy?_eq_some hans
    dsimp only
    by_cases hok : answer.isOkReply
    · rw [if_pos hok]
      exact inOrder_finish h hstate hcurrent (.inl hok) _ rfl rfl
    · rw [if_neg hok]
      unfold fail
      dsimp only
      split
      · rename_i hgive
        exact inOrder_finish h hstate hcurrent (.inr hgive) _ rfl rfl
      · rename_i hkeep
        exact inOrder_retry h (not_or.2 ⟨hok, hkeep⟩) _ rfl

theorem inOrder_receiveMessage (h : InOrder cap asked sent events c) (m : Message) :
    InOrder cap asked sent (events ++ (c.receiveMessage m).2) (c.receiveMessage m).1 := by
  unfold receiveMessage
  split
  · have hsettled : settle cap (events ++ [.inform m]) = settle cap events := settle_append ..
    exact ⟨h.maxRetries, hsettled ▸ h.failures, hsettled ▸ h.asked, hsettled ▸ h.sent,
      h.connecting, h.idle⟩
  · exact inOrder_receiveReply h m
  · simp only [List.append_nil]
    exact ⟨h.maxRetries, h.failures, h.asked, h.sent, h.connecting, h.idle⟩

theorem inOrder_disconnect (h : InOrder cap asked sent events c) :
    InOrder cap asked sent events c.disconnect := by
  obtain ⟨turns, copies, hturns, hsent, -⟩ := h.sent
  exact ⟨h.maxRetries, h.failures, h.asked, ⟨turns, copies, hturns, hsent, nofun⟩, nofun, nofun⟩

/-- A batch of events keeps the order, whatever comes in it. -/
theorem inOrder_receive (h : InOrder cap asked sent events c) (batch : List LinkEvent) :
    InOrder cap asked sent (events ++ (c.receive batch).2) (c.receive batch).1 := by
  induction batch generalizing c events with
  | nil => simpa [receive] using h
  | cons event rest ih =>
    cases event with
    | connected => exact ih (inOrder_receiveConnected h)
    | line m =>
      have hm := ih (inOrder_receiveMessage h m)
      rwa [List.append_assoc] at hm
    | closed reason => simpa [receive] using inOrder_disconnect h

theorem receiveMessage_matches (c : Channel) (m : Message) :
    ∀ event ∈ (c.receiveMessage m).2, event.Matches := by
  intro event hevent
  unfold receiveMessage at hevent
  split at hevent
  · obtain rfl := List.mem_singleton.1 hevent
    trivial
  · rename_i hkind
    unfold receiveReply at hevent
    split at hevent
    · contradiction
    · rename_i request hans
      obtain rfl := List.mem_singleton.1 hevent
      exact ⟨hkind, (answeredBy?_eq_some hans).2.2⟩
  · contradiction

theorem receive_matches (c : Channel) (batch : List LinkEvent) :
    ∀ event ∈ (c.receive batch).2, event.Matches := by
  induction batch generalizing c with
  | nil => nofun
  | cons event rest ih =>
    cases event with
    | connected => exact ih c.receiveConnected
    | line m =>
      intro event hevent
      rcases List.mem_append.1 hevent with hfirst | hothers
      · exact receiveMessage_matches c m event hfirst
      · exact ih _ event hothers
    | closed reason => nofun

theorem read_matches {ν : Type} [Network ν] (c : Channel) (net : ν) :
    ∀ event ∈ (c.read net).2.1, event.Matches := by
  by_cases hdown : c.isDisconnected
  · rw [read_of_isDisconnected hdown]
    nofun
  · rw [read_of_not_isDisconnected hdown]
    exact receive_matches c _

/-! ## Asking and sending -/

theorem inOrder_push (h : InOrder cap asked sent events c) (m : Message) :
    InOrder cap (asked ++ [m]) sent events (c.push m) := by
  obtain ⟨turns, copies, hturns, hsent, hcopies⟩ := h.sent
  unfold push
  split
  · rename_i hidle
    obtain ⟨hcurrent, hqueue⟩ := h.idle hidle.1
    refine ⟨h.maxRetries, h.failures, ?_, ⟨turns, 0, hturns, ?_, nofun⟩, nofun, nofun⟩
    · simp [h.asked, hcurrent, hqueue]
    · simp [hsent, hcurrent]
  · rename_i hbusy
    refine ⟨h.maxRetries, h.failures, ?_, ⟨turns, copies, hturns, hsent, hcopies⟩, h.connecting, ?_⟩
    · simp [h.asked, MessageQueue.push]
    · intro hstate
      exact absurd ⟨hstate, (h.idle hstate).1⟩ hbusy

/-- The link takes the request in flight once more. -/
theorem inOrder_accepted {m : Message} (h : InOrder cap asked sent events c)
    (hout : c.outgoing? = some m) :
    InOrder cap asked (sent ++ [m]) events (c.answered .accepted).2 := by
  obtain ⟨hstate, hcurrent⟩ := outgoing?_eq_some hout
  obtain ⟨turns, copies, hturns, hsent, -⟩ := h.sent
  refine ⟨h.maxRetries, h.failures, h.asked, ⟨turns, copies + 1, hturns, ?_, fun _ => by omega⟩,
    nofun, nofun⟩
  simp [answered, hsent, hcurrent, List.replicate_succ']

/-! ## Channels at the start -/

theorem inOrder_connecting (role : ChannelRole) (link : Link) (seed : List Message)
    (cap : UInt32) : InOrder cap seed [] [] (connecting role link seed cap) :=
  ⟨rfl, rfl, rfl, ⟨[], 0, sentInTurn_nil, rfl, nofun⟩, fun _ => ⟨rfl, rfl⟩, nofun⟩

theorem inOrder_connected (role : ChannelRole) (link : Link) (seed : List Message) (cap : UInt32) :
    InOrder cap seed [] [] (connected role link seed cap) :=
  inOrder_advance rfl rfl rfl sentInTurn_nil

theorem inOrder_reset (old : Channel) (link : Link) (seed : List Message) :
    InOrder old.maxRetries seed [] [] (old.reset link seed) :=
  ⟨rfl, rfl, rfl, ⟨[], 0, sentInTurn_nil, rfl, nofun⟩, fun _ => ⟨rfl, rfl⟩, nofun⟩

end Channel

/-! ## Runs -/

/-- How a channel comes to work on a link with its first requests. -/
inductive ChannelOpening where
  | connecting (role : ChannelRole) (link : Link) (seed : List Message) (maxRetries : UInt32)
  | connected (role : ChannelRole) (link : Link) (seed : List Message) (maxRetries : UInt32)
  /-- Whatever the channel has been through is over. -/
  | reset (old : Channel) (link : Link) (seed : List Message)

namespace ChannelOpening

def channel : ChannelOpening → Channel
  | connecting role link seed maxRetries => .connecting role link seed maxRetries
  | connected role link seed maxRetries => .connected role link seed maxRetries
  | reset old link seed => old.reset link seed

def link : ChannelOpening → Link
  | connecting _ link _ _ | connected _ link _ _ | reset _ link _ => link

def seed : ChannelOpening → List Message
  | connecting _ _ seed _ | connected _ _ seed _ | reset _ _ seed => seed

def maxRetries : ChannelOpening → UInt32
  | connecting _ _ _ maxRetries | connected _ _ _ maxRetries => maxRetries
  | reset old _ _ => old.maxRetries

theorem inOrder (o : ChannelOpening) : o.channel.InOrder o.maxRetries o.seed [] [] := by
  cases o with
  | connecting role link seed cap => exact Channel.inOrder_connecting role link seed cap
  | connected role link seed cap => exact Channel.inOrder_connected role link seed cap
  | reset old link seed => exact Channel.inOrder_reset old link seed

theorem link_channel (o : ChannelOpening) : o.channel.link = o.link := by
  cases o <;> rfl

end ChannelOpening

/-- What the owner of a channel does with it, and what the remote side does. -/
inductive ChannelAct (ν : Type) where
  | push (m : Message)
  | disconnect
  | read
  | write
  | remote (move : ν → ν)

/-- The request that is asked for. -/
def ChannelAct.asked {ν : Type} : ChannelAct ν → List Message
  | push m => [m]
  | _ => []

/-- A channel over a recorded network, with the events that its owner has got from it. -/
structure ChannelHistory (ν : Type) where
  channel : Channel
  net : Recorded ν
  events : List ChannelEvent

namespace ChannelHistory

variable {ν : Type} [Network ν]

def step (h : ChannelHistory ν) : ChannelAct ν → ChannelHistory ν
  | .push m => { h with channel := h.channel.push m }
  | .disconnect => { h with channel := h.channel.disconnect }
  | .read =>
    let (channel, events, net) := h.channel.read h.net
    ⟨channel, net, h.events ++ events⟩
  | .write =>
    let (_, channel, net) := h.channel.write h.net
    { h with channel, net }
  | .remote move => { h with net := h.net.act move }

def run (h : ChannelHistory ν) (acts : List (ChannelAct ν)) : ChannelHistory ν :=
  acts.foldl step h

/-- The channel is in order, and its link has accepted just these messages since the record was
`before`. -/
def InOrder (link : Link) (cap : UInt32) (before : List (Link × Message)) (asked : List Message)
    (h : ChannelHistory ν) : Prop :=
  h.channel.link = link ∧ ∃ sent, h.channel.InOrder cap asked sent h.events ∧
    h.net.accepted = before ++ sent.map (link, ·)

variable {link : Link} {cap : UInt32} {before : List (Link × Message)} {asked : List Message}
  {h : ChannelHistory ν}

theorem inOrder_read (hin : h.InOrder link cap before asked) :
    (h.step .read).InOrder link cap before asked := by
  obtain ⟨hlink, sent, horder, haccepted⟩ := hin
  refine ⟨(Channel.link_read h.channel h.net).trans hlink, sent, ?_, ?_⟩
  · by_cases hdown : h.channel.isDisconnected
    · simpa [step, Channel.read_of_isDisconnected hdown] using horder
    · simpa [step, Channel.read_of_not_isDisconnected hdown] using
        Channel.inOrder_receive horder (Network.drain h.channel.link h.net).1
  · by_cases hdown : h.channel.isDisconnected
    · simpa [step, Channel.read_of_isDisconnected hdown] using haccepted
    · simpa [step, Channel.read_of_not_isDisconnected hdown] using haccepted

theorem inOrder_write (hin : h.InOrder link cap before asked) :
    (h.step .write).InOrder link cap before asked := by
  obtain ⟨hlink, sent, horder, haccepted⟩ := hin
  refine ⟨(Channel.link_write h.channel h.net).trans hlink, ?_⟩
  rcases Channel.write_cases h.channel h.net with ⟨-, hsame⟩ | ⟨m, hout, hsend⟩
  · refine ⟨sent, ?_, ?_⟩ <;> simp only [step, hsame]
    · exact horder
    · exact haccepted
  · have hrecord := Recorded.accepted_send h.channel.link m h.net
    simp only [step, hsend]
    rw [hrecord, haccepted, hlink]
    cases Network.send link m h.net with
    | mk answer net =>
      cases answer with
      | accepted => exact ⟨sent ++ [m], Channel.inOrder_accepted horder hout, by simp⟩
      | wouldBlock => exact ⟨sent, horder, by simp⟩
      | failed error => exact ⟨sent, Channel.inOrder_disconnect horder, by simp⟩

theorem inOrder_step (hin : h.InOrder link cap before asked) (act : ChannelAct ν) :
    (h.step act).InOrder link cap before (asked ++ act.asked) := by
  cases act with
  | push m =>
    obtain ⟨hlink, sent, horder, haccepted⟩ := hin
    exact ⟨(Channel.link_push h.channel m).trans hlink, sent, Channel.inOrder_push horder m,
      haccepted⟩
  | disconnect =>
    obtain ⟨hlink, sent, horder, haccepted⟩ := hin
    simp only [ChannelAct.asked, List.append_nil]
    exact ⟨hlink, sent, Channel.inOrder_disconnect horder, haccepted⟩
  | read => simpa [ChannelAct.asked] using inOrder_read hin
  | write => simpa [ChannelAct.asked] using inOrder_write hin
  | remote move =>
    simp only [ChannelAct.asked, List.append_nil]
    exact hin

theorem inOrder_run (hin : h.InOrder link cap before asked) (acts : List (ChannelAct ν)) :
    (h.run acts).InOrder link cap before (asked ++ acts.flatMap ChannelAct.asked) := by
  induction acts generalizing h asked with
  | nil => simpa [run] using hin
  | cons act rest ih =>
    rw [List.flatMap_cons, ← List.append_assoc]
    exact ih (inOrder_step hin act)

theorem matches_step (hmatch : ∀ event ∈ h.events, event.Matches) (act : ChannelAct ν) :
    ∀ event ∈ (h.step act).events, event.Matches := by
  cases act with
  | read =>
    intro event hevent
    rcases List.mem_append.1 hevent with hbefore | hread
    · exact hmatch event hbefore
    · exact Channel.read_matches h.channel h.net event hread
  | push m => exact hmatch
  | disconnect => exact hmatch
  | write => exact hmatch
  | remote move => exact hmatch

theorem matches_run (hmatch : ∀ event ∈ h.events, event.Matches) (acts : List (ChannelAct ν)) :
    ∀ event ∈ (h.run acts).events, event.Matches := by
  induction acts generalizing h with
  | nil => exact hmatch
  | cons act rest ih => exact ih (matches_step hmatch act)

end ChannelHistory

end ArrayWatch
