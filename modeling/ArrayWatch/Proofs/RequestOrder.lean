import ArrayWatch.Proofs.BatchReading
import ArrayWatch.Proofs.QueueOrder

/-!
# Requests in order, as the link tells it

Which requests of a channel are done with is a matter of the replies that it hands on. These can be
read off what passed between the channel and its link: a message that the link accepted waits for
its reply until the first reply of its name that is heard, and no other reply counts. So the order
of the requests is one that the link can tell.

* `ReadOff`: the events that some traffic comes to, and the request that waits at the end of it.
* `Channel.readOff_receive`: a batch that a channel receives is read so.
* `ChannelHistory.readsOff_run`: so are the events of a whole run.
* `ChannelHistory.requests_in_order`: the law for every run of every channel that was just made or
  reset.
-/

namespace ArrayWatch

/-- A reply bears the name of its request. -/
def Message.RepliesTo (m request : Message) : Prop :=
  m.kind = .reply ∧ m.name? = request.name?

/-- What is read off some traffic: the request that still waits for its reply, and the events. -/
inductive ReadOff : List Traffic → Option Message → List ChannelEvent → Prop
  | start : ReadOff [] none []
  | accepted {traffic : List Traffic} {waiting : Option Message} {events : List ChannelEvent}
    (h : ReadOff traffic waiting events) (m : Message) :
    ReadOff (traffic ++ [.accepted m]) (some m) events
  | unanswered {traffic : List Traffic} {waiting : Option Message} {events : List ChannelEvent}
    (h : ReadOff traffic waiting events) {batch : List LinkEvent}
    (hnone : ∀ request ∈ waiting, ∀ m ∈ heard batch, ¬ m.RepliesTo request) :
    ReadOff (traffic ++ [.taken batch]) waiting (events ++ informs (heard batch))
  | answered {traffic : List Traffic} {request : Message} {events : List ChannelEvent}
    (h : ReadOff traffic (some request) events) {batch : List LinkEvent}
    {before rest : List Message} {reply : Message} (hheard : heard batch = before ++ reply :: rest)
    (hbefore : ∀ m ∈ before, ¬ m.RepliesTo request) (hreply : reply.RepliesTo request) :
    ReadOff (traffic ++ [.taken batch]) none
      (events ++ (informs before ++ .reply request reply :: informs rest))

/-! ## Channels -/

namespace Channel

/-- The request that waits for its reply. -/
def awaited (c : Channel) : Option Message :=
  if c.state = .waitResponse then c.current else none

variable {c : Channel}

theorem awaited_of_not_awaiting (h : c.state ≠ .waitResponse) : c.awaited = none := if_neg h

theorem answers_iff_awaited {request m : Message} :
    c.Answers request m ↔ request ∈ c.awaited ∧ m.RepliesTo request := by
  unfold awaited
  constructor
  · rintro ⟨hwaits, hcurrent, hkind, hname⟩
    rw [if_pos hwaits]
    exact ⟨hcurrent, hkind, hname⟩
  · rintro ⟨hrequest, hkind, hname⟩
    split at hrequest
    · rename_i hwaits
      exact ⟨hwaits, hrequest, hkind, hname⟩
    · contradiction

theorem unanswered_iff_awaited {messages : List Message} :
    c.Unanswered messages ↔
      ∀ request ∈ c.awaited, ∀ m ∈ messages, ¬ m.RepliesTo request := by
  simp only [Unanswered, answers_iff_awaited]
  exact ⟨fun h request hrequest m hm hreply => h m hm request ⟨hrequest, hreply⟩,
    fun h m hm request hboth => h request hboth.1 m hm hboth.2⟩

/-- Nothing that comes from the link makes a channel wait for a reply. -/
theorem receive_not_awaiting (h : c.state ≠ .waitResponse) (batch : List LinkEvent) :
    (c.receive batch).1.state ≠ .waitResponse := by
  induction batch generalizing c with
  | nil => exact h
  | cons event rest ih =>
    cases event with
    | connected =>
      rcases c.receiveConnected_cases with ⟨-, hstate⟩ | ⟨hstate, -⟩
      · exact ih hstate
      · exact ih (hstate ▸ h)
    | closed reason => nofun
    | line m =>
      have hm := receiveMessage_of_not_answers (m := m) fun _ hanswers => h hanswers.waits
      refine ih (c := (c.receiveMessage m).1) ?_
      rw [hm]
      exact h

/-- A batch without an answer leaves the request waiting, unless the connection is closed. -/
theorem awaited_receive_unanswered {batch : List LinkEvent} (h : c.Unanswered (heard batch))
    (hopen : batch.any LinkEvent.isClosed = false) : (c.receive batch).1.awaited = c.awaited := by
  by_cases hwaits : c.state = .waitResponse
  · obtain ⟨hstate, hcurrent⟩ := receive_waits hwaits hopen h
    rw [awaited, hstate, hcurrent]
    rfl
  · rw [awaited_of_not_awaiting hwaits, awaited_of_not_awaiting (receive_not_awaiting hwaits batch)]

/-- After an answer no request waits. -/
theorem awaited_receive_answered {first : List LinkEvent} {request reply : Message}
    (hopen : first.any LinkEvent.isClosed = false) (hreply : c.Answers request reply)
    (hfirst : c.Unanswered (heard first)) (rest : List LinkEvent) :
    (c.receive (first ++ .line reply :: rest)).1.awaited = none := by
  obtain ⟨-, hanswered, -⟩ := receiveMessage_of_answers (hreply.receive hopen hfirst)
  rw [receive_append hopen, receive_line]
  exact awaited_of_not_awaiting (receive_not_awaiting hanswered rest)

/-- What a channel makes of a batch is what is read off it, and so is the request that waits then if
the connection still stands. -/
theorem readOff_receive {traffic : List Traffic} {events : List ChannelEvent}
    (h : ReadOff traffic c.awaited events) (hup : c.isDisconnected = false)
    (batch : List LinkEvent) :
    ∃ waiting, ReadOff (traffic ++ [.taken batch]) waiting (events ++ (c.receive batch).2) ∧
      ((c.receive batch).1.state ≠ .disconnected → waiting = (c.receive batch).1.awaited) := by
  by_cases hnone : c.Unanswered (heard batch)
  · refine ⟨c.awaited, ?_, fun hstands => ?_⟩
    · rw [(receive_unanswered batch hnone).1]
      exact h.unanswered (unanswered_iff_awaited.1 hnone)
    · have hopen : batch.any LinkEvent.isClosed = false := by
        rw [← isDisconnected_receive hup]
        simpa [isDisconnected] using hstands
      exact (awaited_receive_unanswered hnone hopen).symm
  · obtain ⟨before, request, reply, rest, hheard, hanswers, hbefore⟩ := exists_first_answer hnone
    obtain ⟨first, others, rfl, hopen, rfl, rfl⟩ := heard_eq_append hheard
    obtain ⟨hrequest, hreply⟩ := answers_iff_awaited.1 hanswers
    rw [Option.mem_def.1 hrequest] at h
    refine ⟨none, ?_, fun _ => (awaited_receive_answered hopen hanswers hbefore others).symm⟩
    rw [(receive_answered hopen hanswers hbefore others).1]
    exact h.answered hheard
      (fun m hm hm' => hbefore m hm request (answers_iff_awaited.2 ⟨hrequest, hm'⟩)) hreply

theorem awaited_push (c : Channel) (m : Message) : (c.push m).awaited = c.awaited := by
  unfold push
  split
  · rename_i hidle
    have hstate : c.state ≠ .waitResponse := by
      rw [hidle.1]
      nofun
    exact (awaited_of_not_awaiting hstate).symm
  · rfl

theorem awaited_accepted {m : Message} (h : c.outgoing? = some m) :
    (c.answered .accepted).2.awaited = some m := (outgoing?_eq_some h).2

end Channel

theorem ChannelOpening.awaited (o : ChannelOpening) : o.channel.awaited = none := by
  cases o with
  | connecting role link seed cap => rfl
  | connected role link seed cap =>
    exact Channel.awaited_of_not_awaiting (Channel.advance_not_awaiting _)
  | reset old link seed => rfl

/-! ## Runs -/

namespace ChannelHistory

variable {ν : Type} [Network ν]

/-- The events of the channel are read off the traffic of its link since the record was `before`. -/
def ReadsOff (link : Link) (before : List (Link × Traffic)) (h : ChannelHistory ν) : Prop :=
  h.channel.link = link ∧ ∃ traffic waiting, ReadOff traffic waiting h.events ∧
    h.net.traffic = before ++ traffic.map (link, ·) ∧
    (h.channel.state ≠ .disconnected → waiting = h.channel.awaited)

variable {link : Link} {before : List (Link × Traffic)} {h : ChannelHistory ν}

theorem readsOff_read (hreads : h.ReadsOff link before) : (h.step .read).ReadsOff link before := by
  obtain ⟨hlink, traffic, waiting, hoff, htraffic, hwaiting⟩ := hreads
  refine ⟨(Channel.link_read h.channel h.net).trans hlink, ?_⟩
  by_cases hdown : h.channel.isDisconnected
  · have hsame : h.step .read = h := by simp [step, Channel.read_of_isDisconnected hdown]
    rw [hsame]
    exact ⟨traffic, waiting, hoff, htraffic, hwaiting⟩
  · have hup : h.channel.state ≠ .disconnected := by simpa [Channel.isDisconnected] using hdown
    rw [hwaiting hup] at hoff
    obtain ⟨waiting', hoff', hwaiting'⟩ := Channel.readOff_receive hoff (by simpa using hdown)
      (Network.drain h.channel.link h.net).1
    simp only [step, Channel.read_of_not_isDisconnected hdown]
    refine ⟨_, waiting', hoff', ?_, hwaiting'⟩
    rw [Recorded.traffic_drain, htraffic, hlink]
    simp

theorem readsOff_write (hreads : h.ReadsOff link before) :
    (h.step .write).ReadsOff link before := by
  obtain ⟨hlink, traffic, waiting, hoff, htraffic, hwaiting⟩ := hreads
  refine ⟨(Channel.link_write h.channel h.net).trans hlink, ?_⟩
  rcases Channel.write_cases h.channel h.net with ⟨-, hsame⟩ | ⟨m, hout, hsend⟩
  · simp only [step, hsame]
    exact ⟨traffic, waiting, hoff, htraffic, hwaiting⟩
  · have hrecord := Recorded.traffic_send h.channel.link m h.net
    simp only [step, hsend]
    rw [hrecord, htraffic, hlink]
    cases (Network.send link m h.net).1 with
    | accepted =>
      refine ⟨_, some m, hoff.accepted m, ?_, fun _ => (Channel.awaited_accepted hout).symm⟩
      simp
    | wouldBlock => exact ⟨traffic, waiting, hoff, by simp, hwaiting⟩
    | failed error => exact ⟨traffic, waiting, hoff, by simp, fun hup => absurd rfl hup⟩

theorem readsOff_step (hreads : h.ReadsOff link before) (act : ChannelAct ν) :
    (h.step act).ReadsOff link before := by
  cases act with
  | push m =>
    obtain ⟨hlink, traffic, waiting, hoff, htraffic, hwaiting⟩ := hreads
    refine ⟨(Channel.link_push h.channel m).trans hlink, traffic, waiting, hoff, htraffic, ?_⟩
    intro hup
    show waiting = (h.channel.push m).awaited
    rw [Channel.awaited_push]
    refine hwaiting fun hdown => hup ?_
    simp [step, Channel.push, hdown]
  | disconnect =>
    obtain ⟨hlink, traffic, waiting, hoff, htraffic, -⟩ := hreads
    exact ⟨hlink, traffic, waiting, hoff, htraffic, fun hup => absurd rfl hup⟩
  | read => exact readsOff_read hreads
  | write => exact readsOff_write hreads
  | remote move => exact hreads

theorem readsOff_run (hreads : h.ReadsOff link before) (acts : List (ChannelAct ν)) :
    (h.run acts).ReadsOff link before := by
  induction acts generalizing h with
  | nil => exact hreads
  | cons act rest ih => exact ih (readsOff_step hreads act)

/-- However a channel was opened, and whatever happens to it then: the requests it was given are
those that are done with, the one in flight and those that wait, in this order, and its link has
accepted each of the first at least once, one after the other, and then only the one in flight,
any number of times. Nothing else was accepted, so nothing that a channel was given before it was
reset comes to its new link. What is done with is settled by replies that bear the name of the
request, and these are read off the messages that the link accepted and the lines that it
delivered. -/
theorem requests_in_order (o : ChannelOpening) (net : Recorded ν) (acts : List (ChannelAct ν)) :
    let h := run ⟨o.channel, net, []⟩ acts
    let done := (settle o.maxRetries h.events).finished
    o.seed ++ acts.flatMap ChannelAct.asked =
        done ++ h.channel.current.toList ++ h.channel.queue.messages ∧
      (∀ event ∈ h.events, event.Matches) ∧
      (∃ traffic waiting, h.net.traffic = net.traffic ++ traffic.map (o.link, ·) ∧
        ReadOff traffic waiting h.events) ∧
      ∃ turns copies, SentInTurn done turns ∧
        h.net.accepted = net.accepted ++
          (turns ++ h.channel.current.toList.flatMap (List.replicate copies)).map (o.link, ·) := by
  intro h done
  have hstart : InOrder o.link o.maxRetries net.accepted o.seed ⟨o.channel, net, []⟩ :=
    ⟨o.link_channel, [], o.inOrder, by simp⟩
  obtain ⟨-, sent, horder, haccepted⟩ := inOrder_run hstart acts
  obtain ⟨turns, copies, hturns, hsent, -⟩ := horder.sent
  have hmatch : ∀ event ∈ h.events, event.Matches :=
    @matches_run ν _ ⟨o.channel, net, []⟩ nofun acts
  have hreads : ReadsOff o.link net.traffic (⟨o.channel, net, []⟩ : ChannelHistory ν) :=
    ⟨o.link_channel, [], none, .start, by simp, fun _ => o.awaited.symm⟩
  obtain ⟨-, traffic, waiting, hoff, htraffic, -⟩ := readsOff_run hreads acts
  exact ⟨horder.asked, hmatch, ⟨traffic, waiting, htraffic, hoff⟩, turns, copies, hturns,
    by rw [haccepted, hsent]⟩

end ChannelHistory

end ArrayWatch
