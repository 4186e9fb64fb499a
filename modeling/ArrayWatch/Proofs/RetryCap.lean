import ArrayWatch.Proofs.ChannelCoherence
import Mathlib.Algebra.Ring.Nat

/-!
# Capped retries

A channel that retries a failed request only so many times gets through its requests, whatever the
replies say. Its link takes everything, and each request is answered before the next round. Then a
request is handed over once more than it fails before it succeeds, or once more than the cap where
it does not succeed by then, and the next request starts with a clean count. So the channel is idle
after at most as many rounds as there are requests, times the cap and one.

* `tries`, `attempts`: how often each request is handed over, read off the replies.
* `ChannelHistory.Served`: a round in which the link takes the request, and the reply comes.
* `Channel.Trying`: the channel is about to hand a request over, which has failed a number of times.
* `ChannelHistory.round_tries`: what one round does.
* `ChannelHistory.tries_request`, `ChannelHistory.attempts_requests`: what becomes of one request,
  and of all of them.
* `ChannelHistory.retries_capped`: the law for every channel that was just made.
-/

namespace ArrayWatch

/-! ## How often a request is handed over -/

/-- How often a request is handed over, if these are the answers from then on: once more than it
fails before it succeeds, where it fails no more often than `cap`, and else once more than `cap`. -/
def tries (cap : Nat) (oks : List Bool) : Nat :=
  let failures := (oks.takeWhile (!·)).length
  if failures ≤ cap then failures + 1 else cap + 1

/-- How often each of `n` requests is handed over. The answers to one of them are followed by those
to the next. -/
def attempts (cap : Nat) : Nat → List Bool → List Nat
  | 0, _ => []
  | n + 1, oks => tries cap oks :: attempts cap n (oks.drop (tries cap oks))

theorem tries_ok (cap : Nat) (oks : List Bool) : tries cap (true :: oks) = 1 := by
  simp [tries]

theorem tries_zero (ok : Bool) (oks : List Bool) : tries 0 (ok :: oks) = 1 := by
  cases ok <;> simp [tries]

theorem tries_fail (cap : Nat) (oks : List Bool) :
    tries (cap + 1) (false :: oks) = tries cap oks + 1 := by
  simp only [tries, List.takeWhile_cons, Bool.not_false, if_true, List.length_cons,
    Nat.add_le_add_iff_right]
  split <;> rfl

theorem tries_le (cap : Nat) (oks : List Bool) : tries cap oks ≤ cap + 1 := by
  unfold tries
  dsimp only
  split <;> omega

theorem sum_attempts_le (cap n : Nat) (oks : List Bool) :
    (attempts cap n oks).sum ≤ n * (cap + 1) := by
  induction n generalizing oks with
  | zero => exact Nat.zero_le _
  | succ n ih =>
    have hfirst := tries_le cap oks
    have hrest := ih (oks.drop (tries cap oks))
    rw [attempts, List.sum_cons, Nat.succ_mul]
    omega

theorem length_attempts (cap n : Nat) (oks : List Bool) : (attempts cap n oks).length = n := by
  induction n generalizing oks with
  | zero => rfl
  | succ n ih => rw [attempts, List.length_cons, ih]

/-! ## Channels between two rounds -/

namespace Channel

/-- The channel has a request in hand that has failed a number of times, and others wait. -/
structure Holds (cap : UInt32) (link : Link) (request : Message) (failed : Nat)
    (waiting : List Message) (c : Channel) : Prop where
  current : c.current = some request
  failures : c.failures.toNat = failed
  waiting : c.queue.messages = waiting
  maxRetries : c.maxRetries = cap
  link : c.link = link

/-- The channel is about to hand the request over. -/
structure Trying (cap : UInt32) (link : Link) (request : Message) (failed : Nat)
    (waiting : List Message) (c : Channel) : Prop extends
    Holds cap link request failed waiting c where
  state : c.state = .sendFrontOfQueue

/-- Nothing is in flight, and nothing waits. -/
structure Spent (c : Channel) : Prop where
  current : c.current = none
  waiting : c.queue.messages = []

/-- The channel has got through its requests. -/
structure Idle (c : Channel) : Prop extends Spent c where
  state : c.state = .monitor

/-- The channel is about to take up these requests, one after the other. -/
def Begins (cap : UInt32) (link : Link) : List Message → Channel → Prop
  | [], c => c.Idle
  | request :: waiting, c => c.Trying cap link request 0 waiting

/-- When a request is done with, the next one is taken up with a clean count. -/
theorem begins_advance (c : Channel) :
    c.advance.Begins c.maxRetries c.link c.queue.messages := by
  rcases c.advance_cases with ⟨hnone, hidle⟩ | ⟨m, rest, hsome, hnext⟩
  · rw [hnone, hidle]
    exact ⟨⟨rfl, rfl⟩, rfl⟩
  · rw [hsome, hnext]
    exact ⟨⟨rfl, rfl, rfl, rfl, rfl⟩, rfl⟩

variable {cap : UInt32} {link : Link} {request reply : Message} {failed : Nat}
  {waiting : List Message} {c : Channel}

theorem Holds.begins_succeed (h : c.Holds cap link request failed waiting) :
    c.succeed.Begins cap link waiting := by
  have hnext : c.succeed.Begins c.maxRetries c.link c.queue.messages :=
    begins_advance { c with stats.repliesOk := c.stats.repliesOk + 1 }
  rwa [h.maxRetries, h.link, h.waiting] at hnext

/-- The request has failed once more. The count does not run over, as it is never further than one
beyond the cap. -/
theorem Holds.fail (h : c.Holds cap link request failed waiting) (hpos : 1 ≤ cap.toNat)
    (hcap : cap.toNat + 1 < UInt32.size) (hfailed : failed ≤ cap.toNat) :
    if failed = cap.toNat then c.fail.Begins cap link waiting
    else c.fail.Trying cap link request (failed + 1) waiting := by
  have hcount : (c.failures + 1).toNat = failed + 1 := by
    rw [UInt32.toNat_add, h.failures]
    exact Nat.mod_eq_of_lt (Nat.lt_of_le_of_lt (Nat.succ_le_succ hfailed) hcap)
  have hdrop : 0 < c.maxRetries ∧ c.maxRetries < c.failures + 1 ↔ failed = cap.toNat := by
    rw [h.maxRetries, UInt32.lt_iff_toNat_lt, UInt32.lt_iff_toNat_lt, hcount]
    show 0 < cap.toNat ∧ cap.toNat < failed + 1 ↔ failed = cap.toNat
    omega
  unfold Channel.fail
  dsimp only
  by_cases hlast : failed = cap.toNat
  · rw [if_pos hlast, if_pos (hdrop.2 hlast), ← h.maxRetries, ← h.link, ← h.waiting]
    exact begins_advance { c with
      stats.repliesFailed := c.stats.repliesFailed + 1, failures := c.failures + 1 }
  · rw [if_neg hlast, if_neg (mt hdrop.1 hlast)]
    exact ⟨⟨h.current, hcount, h.waiting, h.maxRetries, h.link⟩, rfl⟩

/-- The reply to the request in flight: it is done with if the reply says ok, or if it failed as
often as the cap before. -/
theorem Holds.receiveReply (h : c.Holds cap link request failed waiting)
    (hwaits : c.state = .waitResponse) (hname : reply.name? = request.name?) (hpos : 1 ≤ cap.toNat)
    (hcap : cap.toNat + 1 < UInt32.size) (hfailed : failed ≤ cap.toNat) :
    if reply.isOkReply ∨ failed = cap.toNat then (c.receiveReply reply).1.Begins cap link waiting
    else (c.receiveReply reply).1.Trying cap link request (failed + 1) waiting := by
  have hanswered : c.answeredBy? reply = some request := by
    simp [answeredBy?, hwaits, h.current, Option.filter, hname]
  unfold Channel.receiveReply
  rw [hanswered]
  dsimp only
  by_cases hok : reply.isOkReply = true
  · rw [if_pos (.inl hok), if_pos hok]
    exact h.begins_succeed
  · simp only [hok, Bool.false_eq_true, false_or, if_false]
    exact h.fail hpos hcap hfailed

/-- Without requests there is nothing to answer, whatever comes. -/
theorem Spent.receive (h : c.Spent) (batch : List LinkEvent) : (c.receive batch).1.Spent := by
  induction batch generalizing c with
  | nil => exact h
  | cons event rest ih =>
    cases event with
    | connected =>
      refine ih ?_
      unfold receiveConnected
      dsimp only
      split
      · rcases Channel.advance_cases { c with hasConnected := true } with
          ⟨-, hidle⟩ | ⟨m, others, hsome, -⟩
        · rw [hidle]
          exact ⟨rfl, rfl⟩
        · exact absurd (h.waiting.symm.trans hsome) (List.cons_ne_nil m others).symm
      · exact ⟨h.current, h.waiting⟩
    | line m =>
      have hnone : c.answeredBy? m = none := by simp [answeredBy?, h.current]
      have hspent : (c.receiveMessage m).1.Spent := by
        unfold receiveMessage
        split
        · exact ⟨h.current, h.waiting⟩
        · rw [Channel.receiveReply, hnone]
          exact ⟨h.current, h.waiting⟩
        · exact ⟨h.current, h.waiting⟩
      exact ih hspent
    | closed reason => exact ⟨h.current, h.waiting⟩

end Channel

/-! ## Rounds -/

/-- What the remote side does in one round, and the reply that comes of it. -/
structure Round (ν : Type) where
  move : ν → ν
  reply : Message

namespace ChannelHistory

variable {ν : Type} [Network ν]

/-- The channel hands a request over, the remote side acts, and the channel reads. -/
def round (h : ChannelHistory ν) (turn : Round ν) : ChannelHistory ν :=
  ((h.step .write).step (.remote turn.move)).step .read

def rounds (h : ChannelHistory ν) (turns : List (Round ν)) : ChannelHistory ν :=
  turns.foldl round h

/-- The link accepts the request that is handed over, and then has its reply for the channel, and
nothing else. -/
structure Served (h : ChannelHistory ν) (turn : Round ν) : Prop where
  accepts : ∀ request ∈ h.channel.outgoing?,
    (Network.send h.channel.link request h.net).1 = .accepted
  replies : ∀ request ∈ h.channel.current,
    turn.reply.kind = .reply ∧ turn.reply.name? = request.name? ∧
      (Network.drain h.channel.link ((h.step .write).net.act turn.move)).1 = [.line turn.reply]

instance (h : ChannelHistory ν) (turn : Round ν) : Decidable (h.Served turn) :=
  decidable_of_iff (_ ∧ _) ⟨fun ⟨haccepts, hreplies⟩ => ⟨haccepts, hreplies⟩,
    fun ⟨haccepts, hreplies⟩ => ⟨haccepts, hreplies⟩⟩

/-- Every round is one in which the channel is served. -/
def ServedThroughout (h : ChannelHistory ν) : List (Round ν) → Prop
  | [] => True
  | turn :: turns => h.Served turn ∧ (h.round turn).ServedThroughout turns

instance decidableServedThroughout (h : ChannelHistory ν) :
    (turns : List (Round ν)) → Decidable (h.ServedThroughout turns)
  | [] => inferInstanceAs (Decidable True)
  | turn :: turns =>
    have := decidableServedThroughout (h.round turn) turns
    inferInstanceAs (Decidable (h.Served turn ∧ (h.round turn).ServedThroughout turns))

variable {h : ChannelHistory ν} {turn : Round ν} {turns : List (Round ν)} {cap : UInt32}
  {link : Link} {request : Message} {failed : Nat} {waiting : List Message}

theorem ServedThroughout.drop (hserved : h.ServedThroughout turns) (n : Nat) :
    (h.rounds (turns.take n)).ServedThroughout (turns.drop n) := by
  induction n generalizing h turns with
  | zero => exact hserved
  | succ n ih =>
    cases turns with
    | nil => exact trivial
    | cons turn rest => exact ih hserved.2

theorem rounds_add (h : ChannelHistory ν) (turns : List (Round ν)) (m n : Nat) :
    h.rounds (turns.take (m + n)) = (h.rounds (turns.take m)).rounds ((turns.drop m).take n) := by
  rw [List.take_add]
  exact List.foldl_append

/-- In a round the link gets the request once more, which is then done with or tried again. -/
theorem round_tries (htry : h.channel.Trying cap link request failed waiting)
    (hserved : h.Served turn) (hwords : request.words ≠ []) (hpos : 1 ≤ cap.toNat)
    (hcap : cap.toNat + 1 < UInt32.size) (hfailed : failed ≤ cap.toNat) :
    (h.round turn).net.accepted = h.net.accepted ++ [(link, request)] ∧
      if turn.reply.isOkReply ∨ failed = cap.toNat then
        (h.round turn).channel.Begins cap link waiting
      else (h.round turn).channel.Trying cap link request (failed + 1) waiting := by
  have hout : h.channel.outgoing? = some request := (if_pos htry.state).trans htry.current
  obtain ⟨hkind, hname, hdrained⟩ := hserved.replies request htry.current
  have haccepts := hserved.accepts request hout
  have hwrite : h.channel.write h.net = (.ok true, (h.channel.answered .accepted).2,
      (Network.send h.channel.link request h.net).2) := by
    simp [Channel.write, hout, hwords, haccepts, Channel.answered]
  let sent := (h.channel.answered .accepted).2
  have hsent : (h.step .write).channel = sent := by
    simp only [step, hwrite]
    rfl
  have hnet : (h.step .write).net = (Network.send h.channel.link request h.net).2 := by
    simp only [step, hwrite]
  have hchannel : (h.round turn).channel = (sent.receiveReply turn.reply).1 := by
    have hup : ¬ sent.isDisconnected := Bool.false_ne_true
    have hreply : sent.receive [.line turn.reply] =
        ((sent.receiveReply turn.reply).1, (sent.receiveReply turn.reply).2 ++ []) := by
      simp [Channel.receive, Channel.receiveMessage, hkind]
    have hlink : sent.link = h.channel.link := rfl
    have hread := Channel.read_of_not_isDisconnected hup ((h.step .write).net.act turn.move)
    rw [hlink, hdrained, hreply] at hread
    show ((h.step .write).channel.read ((h.step .write).net.act turn.move)).1 = _
    rw [hsent, hread]
  have haccepted : (h.round turn).net.accepted = h.net.accepted ++ [(link, request)] := by
    have hgot := Recorded.accepted_send h.channel.link request h.net
    rw [if_pos haccepts, ← hnet, htry.link] at hgot
    exact (Channel.accepted_read _ _).trans hgot
  have hholds : sent.Holds cap link request failed waiting :=
    ⟨htry.current, htry.failures, htry.waiting, htry.maxRetries, htry.link⟩
  rw [hchannel]
  exact ⟨haccepted, hholds.receiveReply rfl hname hpos hcap hfailed⟩

/-- A request is handed over until it is done with, and then the next one begins. -/
theorem tries_request (left : Nat)
    (htry : h.channel.Trying cap link request failed waiting)
    (hserved : h.ServedThroughout turns) (hwords : request.words ≠ []) (hpos : 1 ≤ cap.toNat)
    (hcap : cap.toNat + 1 < UInt32.size) (hleft : failed + left = cap.toNat)
    (hlength : left + 1 ≤ turns.length) :
    let n := tries left (turns.map (·.reply.isOkReply))
    (h.rounds (turns.take n)).net.accepted =
        h.net.accepted ++ List.replicate n (link, request) ∧
      (h.rounds (turns.take n)).channel.Begins cap link waiting := by
  -- `left` is how often the request may still fail before the failure that is its last
  induction left generalizing h failed turns with
  | zero =>
    cases turns with
    | nil => exact absurd hlength (Nat.not_succ_le_zero 0)
    | cons turn rest =>
      obtain ⟨haccepted, hnext⟩ :=
        round_tries htry hserved.1 hwords hpos hcap (Nat.le_of_eq hleft)
      rw [if_pos (.inr hleft)] at hnext
      rw [List.map_cons, tries_zero]
      exact ⟨haccepted, hnext⟩
  | succ left ih =>
    cases turns with
    | nil => exact absurd hlength (Nat.not_succ_le_zero _)
    | cons turn rest =>
      obtain ⟨haccepted, hnext⟩ :=
        round_tries htry hserved.1 hwords hpos hcap (by omega)
      cases hok : turn.reply.isOkReply with
      | true =>
        rw [if_pos (.inl hok)] at hnext
        rw [List.map_cons, hok, tries_ok]
        exact ⟨haccepted, hnext⟩
      | false =>
        have hagain : ¬ (turn.reply.isOkReply ∨ failed = cap.toNat) := by
          rintro (htrue | hlast)
          · exact Bool.false_ne_true (hok.symm.trans htrue)
          · omega
        rw [if_neg hagain] at hnext
        obtain ⟨hothers, hbegins⟩ :=
          ih hnext hserved.2 (by omega) (Nat.le_of_succ_le_succ hlength)
        rw [List.map_cons, hok, tries_fail]
        rw [haccepted, List.append_assoc] at hothers
        exact ⟨hothers, hbegins⟩

/-- All requests are handed over in their order, until nothing is left. -/
theorem attempts_requests {requests : List Message}
    (hbegins : h.channel.Begins cap link requests) (hserved : h.ServedThroughout turns)
    (hwords : ∀ request ∈ requests, request.words ≠ []) (hpos : 1 ≤ cap.toNat)
    (hcap : cap.toNat + 1 < UInt32.size)
    (hlength : requests.length * (cap.toNat + 1) ≤ turns.length) :
    let counts := attempts cap.toNat requests.length (turns.map (·.reply.isOkReply))
    (h.rounds (turns.take counts.sum)).net.accepted =
        h.net.accepted ++ (counts.zipWith List.replicate requests).flatten.map (link, ·) ∧
      (h.rounds (turns.take counts.sum)).channel.Idle := by
  induction requests generalizing h turns with
  | nil => exact ⟨(List.append_nil _).symm, hbegins⟩
  | cons request waiting ih =>
    let oks := turns.map (·.reply.isOkReply)
    let n := tries cap.toNat oks
    have hall : (waiting.length + 1) * (cap.toNat + 1) ≤ turns.length := hlength
    rw [Nat.succ_mul] at hall
    have htry : h.channel.Trying cap link request 0 waiting := hbegins
    obtain ⟨hfirst, hnext⟩ := tries_request cap.toNat htry hserved
      (hwords request List.mem_cons_self) hpos hcap (Nat.zero_add _) (by omega)
    have hn : n ≤ cap.toNat + 1 := tries_le cap.toNat oks
    obtain ⟨hrest, hidle⟩ := ih hnext (hserved.drop n)
      (fun m hm => hwords m (List.mem_cons_of_mem _ hm)) (by rw [List.length_drop]; omega)
    rw [List.map_drop] at hrest hidle
    simp only [List.length_cons, attempts, List.sum_cons, rounds_add]
    refine ⟨?_, hidle⟩
    rw [hrest, hfirst, List.append_assoc, List.zipWith_cons_cons, List.flatten_cons,
      List.map_append, List.map_replicate]

/-- A channel without requests hands nothing over. -/
theorem accepted_rounds_of_spent (hspent : h.channel.Spent) (turns : List (Round ν)) :
    (h.rounds turns).net.accepted = h.net.accepted := by
  induction turns generalizing h with
  | nil => rfl
  | cons turn rest ih =>
    have hout : h.channel.outgoing? = none := by simp [Channel.outgoing?, hspent.current]
    have hwrite : h.step .write = h := by simp [step, Channel.write, hout]
    have hround : h.round turn = (h.step (.remote turn.move)).step .read := by
      rw [round, hwrite]
    have hchannel : (h.round turn).channel.Spent := by
      rw [hround]
      show (h.channel.read (h.net.act turn.move)).1.Spent
      by_cases hdown : h.channel.isDisconnected
      · rwa [Channel.read_of_isDisconnected hdown]
      · rw [Channel.read_of_not_isDisconnected hdown]
        exact hspent.receive _
    have haccepted : (h.round turn).net.accepted = h.net.accepted := by
      rw [hround]
      exact Channel.accepted_read h.channel (h.net.act turn.move)
    exact (ih hchannel).trans haccepted

/-- A channel that was made on a connection gets through its requests, if its link accepts what is
handed over and each request is answered in its round, whatever the replies say. As soon as it has
handed the first request over as often as `attempts` says, then the second one, and so on, the
channel is idle. These are no more rounds than there are requests, times the cap and one, and
nothing is handed over in the rounds that come after them. -/
theorem retries_capped {cap : UInt32} (hpos : 1 ≤ cap.toNat) (hcap : cap.toNat + 1 < UInt32.size)
    (role : ChannelRole) (link : Link) {seed : List Message}
    (hwords : ∀ request ∈ seed, request.words ≠ []) (net : Recorded ν) {turns : List (Round ν)}
    (hserved : ServedThroughout ⟨.connected role link seed cap, net, []⟩ turns)
    (hlength : seed.length * (cap.toNat + 1) ≤ turns.length) :
    let counts := attempts cap.toNat seed.length (turns.map (·.reply.isOkReply))
    let h := rounds ⟨.connected role link seed cap, net, []⟩ (turns.take counts.sum)
    counts.length = seed.length ∧ counts.sum ≤ seed.length * (cap.toNat + 1) ∧
      h.net.accepted =
        net.accepted ++ (counts.zipWith List.replicate seed).flatten.map (link, ·) ∧
      h.channel.state = .monitor ∧ h.channel.current = none ∧ h.channel.queue.messages = [] ∧
      ∀ later, (h.rounds later).net.accepted = h.net.accepted := by
  intro counts h
  have hbegins : (Channel.connected role link seed cap).Begins cap link seed :=
    Channel.begins_advance (.connecting role link seed cap)
  obtain ⟨haccepted, hidle⟩ := attempts_requests hbegins hserved hwords hpos hcap hlength
  exact ⟨length_attempts .., sum_attempts_le .., haccepted, hidle.state, hidle.current,
    hidle.waiting, accepted_rounds_of_spent hidle.toSpent⟩

/-- What is replied to a request with any status words. -/
def replying (request : Message) (status : List String) : Round ScriptedNetwork :=
  let reply : Message := ⟨.reply, request.name?.toList ++ status⟩
  ⟨fun net => net.modify 0 fun link => link.happen (.line reply), reply⟩

/-- The first of two requests fails three times. The second one fails once, and then succeeds. -/
def failing : List (Round ScriptedNetwork) :=
  [replying logOff ["fail", "busy"], replying logOff ["invalid"], replying logOff [],
    replying (.request "array-list" []) ["fail"], replying (.request "array-list" []) ["ok"],
    replying logOff ["ok"]]

/-- The first request is dropped after its third failure, and the second one has as many tries left
as if nothing had failed before. -/
theorem retries_capped_failing :
    let array := Message.request "array-list" []
    let seed := [logOff, array]
    let start : ChannelHistory ScriptedNetwork :=
      ⟨.connected .control ⟨0, "peer"⟩ seed 2, .fresh twoLinks, []⟩
    let counts := attempts (2 : UInt32).toNat seed.length (failing.map (·.reply.isOkReply))
    let h := start.rounds (failing.take counts.sum)
    start.ServedThroughout failing ∧ counts = [3, 2] ∧
      h.net.accepted.map Prod.snd = [logOff, logOff, logOff, array, array] ∧
      h.channel.state = .monitor ∧ h.channel.stats = ⟨5, 1, 4, 0, 0⟩ := by
  have hserved : ServedThroughout ⟨.connected .control ⟨0, "peer"⟩
      [logOff, .request "array-list" []] 2, .fresh twoLinks, []⟩ failing := by decide +kernel
  have hlaw := retries_capped (by decide) (by decide) .control ⟨0, "peer"⟩ (by decide)
    (.fresh twoLinks) hserved (by decide)
  exact ⟨hserved, by decide +kernel, by decide +kernel, hlaw.2.2.2.1, by decide +kernel⟩

end ChannelHistory

end ArrayWatch
