import ArrayWatch.Proofs.CmcStep
import ArrayWatch.Proofs.QueueOrder

/-!
# Where the replies of a CMC come from

A reply is acted on where the line that brought it found its request in flight. Any other reply, be
it one that nobody asked for or one that comes twice, brings no event at all. The requests of a CMC
are those of its seed, so that the reply that ends a list answers the request for it.

* `Channel.receive_reply_split`: the line of a batch that a reply comes from.
* `Channel.Asks`: every request of a channel is of one kind.
* `CmcMoment.answered_of_reachable`: the reply that is to be acted on next.
-/

namespace ArrayWatch

namespace Channel

/-! ## The line that a reply comes from -/

/-- A line brings one event at most. A reply is brought where its request waits for it. -/
theorem receiveMessage_cases (c : Channel) (m : Message) :
    (c.receiveMessage m).2 = [] ∨ (c.receiveMessage m).2 = [.inform m] ∨
      ∃ request, m.kind = .reply ∧ c.answeredBy? m = some request ∧
        (c.receiveMessage m).2 = [.reply request m] := by
  unfold receiveMessage
  split
  · exact .inr (.inl rfl)
  · rename_i hkind
    unfold receiveReply
    cases hanswer : c.answeredBy? m with
    | none => exact .inl rfl
    | some request => exact .inr (.inr ⟨request, hkind, rfl, rfl⟩)
  · exact .inl rfl

/-- A reply comes from a line of the batch that found the request in flight. What was brought before
it was brought by the lines before. -/
theorem receive_reply_split {c : Channel} {batch : List LinkEvent} {done todo : List ChannelEvent}
    {request answer : Message}
    (h : (c.receive batch).2 = done ++ .reply request answer :: todo) :
    ∃ before after, batch = before ++ .line answer :: after ∧ (c.receive before).2 = done ∧
      answer.kind = .reply ∧ (c.receive before).1.answeredBy? answer = some request := by
  induction batch generalizing c done with
  | nil => simp [receive] at h
  | cons event rest ih =>
    cases event with
    | connected =>
      obtain ⟨before, after, rfl, hbefore, hanswered⟩ := ih h
      exact ⟨.connected :: before, after, rfl, hbefore, hanswered⟩
    | closed reason => simp [receive] at h
    | line m =>
      have hlater : ∀ later, ((c.receiveMessage m).1.receive rest).2 =
          later ++ .reply request answer :: todo → (c.receiveMessage m).2 ++ later = done →
          ∃ before after, .line m :: rest = before ++ .line answer :: after ∧
            (c.receive before).2 = done ∧ answer.kind = .reply ∧
            (c.receive before).1.answeredBy? answer = some request := by
        intro later hrest hdone
        obtain ⟨before, after, rfl, hbefore, hanswered⟩ := ih hrest
        refine ⟨.line m :: before, after, rfl, ?_, hanswered⟩
        show (c.receiveMessage m).2 ++ ((c.receiveMessage m).1.receive before).2 = done
        rw [hbefore, hdone]
      have hall : (c.receiveMessage m).2 ++ ((c.receiveMessage m).1.receive rest).2 =
          done ++ .reply request answer :: todo := h
      rcases c.receiveMessage_cases m with hnone | hinform | ⟨asked, hkind, hanswered, hreply⟩
      · rw [hnone] at hall hlater
        exact hlater done hall rfl
      · rw [hinform] at hall hlater
        rcases List.cons_eq_append_iff.1 hall with ⟨-, hfirst⟩ | ⟨later, hdone, hrest⟩
        · cases (List.cons.inj hfirst).1
        · exact hlater later hrest hdone.symm
      · rw [hreply] at hall hlater
        rcases List.cons_eq_append_iff.1 hall with ⟨hdone, hfirst⟩ | ⟨later, hdone, hrest⟩
        · obtain ⟨hevent, -⟩ := List.cons.inj hfirst
          cases hevent
          exact ⟨[], rest, rfl, hdone.symm, hkind, hanswered⟩
        · exact hlater later hrest hdone.symm

/-! ## Requests of one kind -/

/-- Every request that is in flight or waits is of one kind. -/
def Asks (P : Message → Prop) (c : Channel) : Prop :=
  ∃ cap asked sent events, c.InOrder cap asked sent events ∧ ∀ request ∈ asked, P request

section Asks

variable {ν : Type} [Network ν] {P : Message → Prop} {c : Channel}

/-- The request in flight is one of those that were asked for. -/
theorem Asks.current {request : Message} (h : c.Asks P) (hcurrent : c.current = some request) :
    P request := by
  obtain ⟨cap, asked, sent, events, horder, hall⟩ := h
  apply hall
  rw [horder.asked, hcurrent]
  simp

theorem asks_connecting {seed : List Message} (hseed : ∀ request ∈ seed, P request)
    (role : ChannelRole) (link : Link) (cap : UInt32) :
    (connecting role link seed cap).Asks P :=
  ⟨cap, seed, [], [], inOrder_connecting role link seed cap, hseed⟩

theorem asks_reset {seed : List Message} (hseed : ∀ request ∈ seed, P request) (old : Channel)
    (link : Link) : (old.reset link seed).Asks P :=
  ⟨old.maxRetries, seed, [], [], inOrder_reset old link seed, hseed⟩

theorem Asks.push (h : c.Asks P) {m : Message} (hm : P m) : (c.push m).Asks P := by
  obtain ⟨cap, asked, sent, events, horder, hall⟩ := h
  refine ⟨cap, asked ++ [m], sent, events, inOrder_push horder m, ?_⟩
  simpa [or_imp, forall_and] using ⟨hall, hm⟩

theorem Asks.receive (h : c.Asks P) (batch : List LinkEvent) : (c.receive batch).1.Asks P := by
  obtain ⟨cap, asked, sent, events, horder, hall⟩ := h
  exact ⟨cap, asked, sent, _, inOrder_receive horder batch, hall⟩

theorem Asks.read (h : c.Asks P) (net : ν) : (c.read net).1.Asks P := by
  by_cases hdown : c.isDisconnected
  · rwa [read_of_isDisconnected hdown]
  · rw [read_of_not_isDisconnected hdown]
    exact h.receive _

theorem Asks.write (h : c.Asks P) (net : ν) : (c.write net).2.1.Asks P := by
  rcases write_cases c net with ⟨-, hsame⟩ | ⟨m, hout, hsend⟩
  · rwa [hsame]
  · rw [hsend]
    obtain ⟨cap, asked, sent, events, horder, hall⟩ := h
    cases (Network.send c.link m net).1 with
    | accepted => exact ⟨cap, asked, sent ++ [m], events, inOrder_accepted horder hout, hall⟩
    | wouldBlock => exact ⟨cap, asked, sent, events, horder, hall⟩
    | failed error => exact ⟨cap, asked, sent, events, inOrder_disconnect horder, hall⟩

theorem Asks.flush (h : c.Asks P) (w : World ν) : (c.flush w).1.Asks P := by
  show (c.flushCounted w.net).2.1.Asks P
  exact flushCounted_keeps (P := fun c _ => c.Asks P) (fun _ net hc => hc.write net) h

end Asks

end Channel

namespace CmcAct

variable {ν : Type}

/-- The event that is acted on. -/
def handled? : CmcAct ν → Option ChannelEvent
  | handle event => some event
  | _ => none

/-- Events are acted on, and the remote sides act, and nothing else happens. -/
def IsHandling : CmcAct ν → Prop
  | handle _ | remote _ => True
  | _ => False

end CmcAct

namespace CmcMoment

variable {ν : Type} [Network ν] {m m' : CmcMoment ν}

/-! ## Requests of a CMC -/

/-- Nothing is asked of a CMC but what its seed asks. -/
theorem asks_step? {act : CmcAct ν} (h : m.step? act = some m')
    (hasks : m.server.channel.Asks (· ∈ CmcServer.seed)) :
    m'.server.channel.Asks (· ∈ CmcServer.seed) := by
  cases act with
  | poll =>
    obtain ⟨-, rfl⟩ := step?_poll.1 h
    dsimp only [CmcServer.pollArrayList]
    split
    · have hlist : CmcServer.arrayListRequest ∈ CmcServer.seed := by decide
      exact hasks.push hlist
    · exact hasks
  | reconnect =>
    obtain ⟨-, rfl⟩ := step?_reconnect.1 h
    dsimp only [CmcServer.reconnect]
    split
    · exact Channel.asks_reset (fun _ hrequest => hrequest) _ _
    · exact hasks
  | flush =>
    obtain ⟨-, rfl⟩ := step?_flush.1 h
    exact hasks.flush m.world
  | gather now =>
    obtain ⟨-, rfl⟩ := step?_gather.1 h
    exact hasks
  | collect =>
    obtain ⟨-, rfl⟩ := step?_collect.1 h
    exact hasks.read m.world.net
  | handle event =>
    obtain ⟨todo, -, rfl⟩ := step?_handle.1 h
    obtain ⟨arrays, hserver⟩ := m.server.event_eq m.world event
    have hhandle : (m.handle event todo).server = { m.server with arrays := arrays } := hserver
    rw [hhandle]
    exact hasks
  | finish =>
    obtain ⟨-, rfl⟩ := step?_finish.1 h
    exact hasks
  | remote move =>
    obtain rfl := step?_remote.1 h
    exact hasks

theorem asks_of_reachable (h : m.Reachable) : m.server.channel.Asks (· ∈ CmcServer.seed) := by
  obtain ⟨address, port, plan, maxRetries, net, metrics, acts, hrun⟩ := h
  have hstart : (start address port plan maxRetries net metrics).server.channel.Asks
      (· ∈ CmcServer.seed) := Channel.asks_connecting (fun _ hrequest => hrequest) _ _ _
  exact run?_keeps (P := fun m => m.server.channel.Asks (· ∈ CmcServer.seed))
    (fun _ _ _ => asks_step?) hrun hstart

theorem eq_arrayListRequest {request : Message} (hseed : request ∈ CmcServer.seed)
    (hname : request.name? = some CmcServer.arrayListName) :
    request = CmcServer.arrayListRequest := by
  revert hname
  simp only [CmcServer.seed, List.mem_cons, List.not_mem_nil, or_false] at hseed
  rcases hseed with rfl | rfl | rfl
  · decide
  · decide
  · exact fun _ => rfl

/-! ## Replies that are to be acted on -/

/-- At the moment `m` these events are left of what the channel took in at the moment `taken`. -/
structure Handling (taken : CmcMoment ν) (m : CmcMoment ν) (todo : List ChannelEvent)
    (acts : List (CmcAct ν)) : Prop where
  reachable : taken.Reachable
  gathered : taken.phase = .gathered
  run : taken.run? (.collect :: acts) = some m
  handling : ∀ act ∈ acts, act.IsHandling
  events : (taken.server.channel.read taken.world.net).2.1 =
    acts.filterMap CmcAct.handled? ++ todo

theorem Handling.snoc {taken : CmcMoment ν} {todo todo' : List ChannelEvent}
    {acts : List (CmcAct ν)} {act : CmcAct ν} (h : taken.Handling m todo acts)
    (hstep : m.step? act = some m') (hact : act.IsHandling)
    (htodo : todo = act.handled?.toList ++ todo') : taken.Handling m' todo' (acts ++ [act]) := by
  refine ⟨h.reachable, h.gathered, ?_, ?_, ?_⟩
  · rw [← List.cons_append, run?_append_eq_some]
    exact ⟨m, h.run, by rw [run?_cons, hstep]; rfl⟩
  · intro act' hact'
    rcases List.mem_append.1 hact' with hold | hlast
    · exact h.handling act' hold
    · exact List.mem_singleton.1 hlast ▸ hact
  · rw [h.events, htodo, List.filterMap_append, List.append_assoc]
    cases act <;> rfl

/-- The events that are still to be acted on are what is left of those that were taken in. -/
theorem handling_step? {act : CmcAct ν} (h : m.step? act = some m') (hreach : m.Reachable)
    (hm : ∀ todo, m.phase = .acting todo → ∃ taken acts, Handling taken m todo acts) :
    ∀ todo, m'.phase = .acting todo → ∃ taken acts, Handling taken m' todo acts := by
  intro todo hphase
  cases act with
  | poll =>
    obtain ⟨hresting, rfl⟩ := step?_poll.1 h
    exact absurd (hresting.symm.trans hphase) nofun
  | reconnect =>
    obtain ⟨hresting, rfl⟩ := step?_reconnect.1 h
    exact absurd (hresting.symm.trans hphase) nofun
  | flush =>
    obtain ⟨hresting, rfl⟩ := step?_flush.1 h
    exact absurd (hresting.symm.trans hphase) nofun
  | gather now =>
    obtain ⟨-, rfl⟩ := step?_gather.1 h
    exact nomatch hphase
  | collect =>
    obtain ⟨hgathered, rfl⟩ := step?_collect.1 h
    refine ⟨m, [], hreach, hgathered, ?_, nofun, ?_⟩
    · rw [run?_cons, h]
      rfl
    · exact CmcPhase.acting.inj hphase
  | handle event =>
    obtain ⟨rest, hbefore, rfl⟩ := step?_handle.1 h
    obtain ⟨taken, acts, hhandling⟩ := hm _ hbefore
    obtain rfl : rest = todo := CmcPhase.acting.inj hphase
    have hact : (CmcAct.handle event : CmcAct ν).IsHandling := trivial
    exact ⟨taken, acts ++ [.handle event], hhandling.snoc h hact rfl⟩
  | finish =>
    obtain ⟨-, rfl⟩ := step?_finish.1 h
    exact nomatch hphase
  | remote move =>
    have hmoved := h
    obtain rfl := step?_remote.1 hmoved
    obtain ⟨taken, acts, hhandling⟩ := hm todo hphase
    have hact : (CmcAct.remote move).IsHandling := trivial
    exact ⟨taken, acts ++ [.remote move], hhandling.snoc h hact rfl⟩

theorem handling_of_reachable {todo : List ChannelEvent} (h : m.Reachable)
    (hphase : m.phase = .acting todo) : ∃ taken acts, Handling taken m todo acts := by
  obtain ⟨address, port, plan, maxRetries, net, metrics, acts, hrun⟩ := h
  let first := start address port plan maxRetries net metrics
  have hfirst : first.Reachable := ⟨address, port, plan, maxRetries, net, metrics, [], rfl⟩
  have hend := run?_keeps
    (P := fun m => m.Reachable ∧
      ∀ todo, m.phase = .acting todo → ∃ taken acts, Handling taken m todo acts)
    (fun m act m' hact hm => ⟨Reachable.step hm.1 hact, handling_step? hact hm.1 hm.2⟩) hrun
    ⟨hfirst, nofun⟩
  exact hend.2 todo hphase

/-- The answer is to be acted on next. It came in a batch of which the lines before it have brought
the events that were acted on since, and it found the request in flight. -/
def Answered (m : CmcMoment ν) (request answer : Message) : Prop :=
  ∃ taken todo acts before after,
    Handling taken m (.reply request answer :: todo) acts ∧
    (Network.drain taken.server.channel.link taken.world.net).1 =
      before ++ .line answer :: after ∧
    (taken.server.channel.receive before).2 = acts.filterMap CmcAct.handled? ∧
    answer.kind = .reply ∧ answer.name? = request.name? ∧
    (taken.server.channel.receive before).1.state = .waitResponse ∧
    (taken.server.channel.receive before).1.current = some request

theorem answered_of_reachable {request answer : Message} {todo : List ChannelEvent}
    (h : m.Reachable) (hphase : m.phase = .acting (.reply request answer :: todo)) :
    m.Answered request answer := by
  obtain ⟨taken, acts, hhandling⟩ := handling_of_reachable h hphase
  have hevents := hhandling.events
  by_cases hdown : taken.server.channel.isDisconnected
  · rw [Channel.read_of_isDisconnected hdown] at hevents
    simp at hevents
  · rw [Channel.read_of_not_isDisconnected hdown] at hevents
    obtain ⟨before, after, hbatch, hbefore, hkind, hanswered⟩ :=
      Channel.receive_reply_split hevents
    obtain ⟨hstate, hcurrent, hname⟩ := Channel.answeredBy?_eq_some hanswered
    exact ⟨taken, todo, acts, before, after, hhandling, hbatch, hbefore, hkind, hname.symm, hstate,
      hcurrent⟩

/-- Only the request for the list is answered by a reply with its name. -/
theorem Answered.arrayListRequest {request answer : Message} (h : m.Answered request answer)
    (hends : CmcServer.endsArrayList answer) : request = CmcServer.arrayListRequest := by
  obtain ⟨taken, todo, acts, before, after, hhandling, -, -, -, hname, -, hcurrent⟩ := h
  have hasks := (asks_of_reachable hhandling.reachable).receive before
  have hlist : answer.name? = some CmcServer.arrayListName := by
    have hboth := hends
    simp only [CmcServer.endsArrayList, Bool.and_eq_true, beq_iff_eq] at hboth
    exact hboth.1
  exact eq_arrayListRequest (hasks.current hcurrent) (hname.symm.trans hlist)

end CmcMoment

end ArrayWatch
