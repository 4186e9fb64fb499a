import ArrayWatch.Proofs.Bookkeeping

/-!
# Handing requests over

A channel hands its requests over in a loop: as long as it wants to write, it tries to write, and an
attempt that is not taken is the last one. Nothing counts the rounds, and a link may say for ever
that something is still unwritten, so that the channel never stops wanting to write. The loop ends
because a request that was taken leaves the channel waiting for the reply, and then an attempt does
nothing.

* `Channel.HandsOver`: the loop, round by round.
* `Channel.handsOver_iff`: every run of the loop ends as `flushCounted` says, with the results that
  `writeResults` lists.
* `Channel.HandsOver.rounds`: what the rounds of the loop are. A second one does nothing, and there
  is no third one.
* `Channel.flush_of_offered?_eq_some`: handing over comes to asking the link once.
* `Channel.handing_over_ends`: what handing over comes to, for every channel on every network.
-/

namespace ArrayWatch.Channel

variable {ν : Type} [Network ν]

/-! ## The loop -/

/-- The loop from a channel and a network to those at its end, with the result of the attempt in
each round. -/
inductive HandsOver : Channel → ν → List (Except WireError Bool) → Channel → ν → Prop
  /-- The channel does not want to write. -/
  | rest {c : Channel} {net : ν} (hrest : c.wantsWrite net = false) : HandsOver c net [] c net
  /-- The attempt is not taken. -/
  | last {c : Channel} {net : ν} (hwants : c.wantsWrite net = true)
      (hstop : (c.write net).1 ≠ .ok true) :
      HandsOver c net [(c.write net).1] (c.write net).2.1 (c.write net).2.2
  /-- The attempt is taken, and the loop goes on. -/
  | next {c : Channel} {net : ν} {results : List (Except WireError Bool)} {c' : Channel} {net' : ν}
      (hwants : c.wantsWrite net = true) (htaken : (c.write net).1 = .ok true)
      (hrest : HandsOver (c.write net).2.1 (c.write net).2.2 results c' net') :
      HandsOver c net (.ok true :: results) c' net'

variable {c c' : Channel} {net net' : ν} {results : List (Except WireError Bool)}

/-- The loop ends, whatever the link answers. -/
theorem handsOver_flushCounted (c : Channel) (net : ν) :
    HandsOver c net (c.writeResults net) (c.flushCounted net).2.1 (c.flushCounted net).2.2 := by
  induction c, net using writeResults.induct with
  | case1 c net hwants c' net' hwrite ih =>
    have htaken : (c.write net).1 = .ok true := by rw [hwrite]
    rw [writeResults_of_taken hwants htaken, flushCounted_of_taken hwants htaken]
    refine .next hwants htaken ?_
    rw [hwrite]
    exact ih
  | case2 c net hwants result c' net' hstop hwrite =>
    have hfirst : (c.write net).1 ≠ .ok true := by rwa [hwrite]
    rw [writeResults_of_not_taken hwants hfirst, flushCounted_of_not_taken hwants hfirst]
    exact .last hwants hfirst
  | case3 c net hwants =>
    rw [writeResults, if_neg hwants, flushCounted, if_neg hwants]
    exact .rest (by simpa using hwants)

/-- There is one way for the loop to run. -/
theorem HandsOver.eq (h : HandsOver c net results c' net') :
    results = c.writeResults net ∧ (c', net') = (c.flushCounted net).2 := by
  induction h with
  | rest hrest =>
    have hwants := Bool.eq_false_iff.1 hrest
    rw [writeResults, if_neg hwants, flushCounted, if_neg hwants]
    exact ⟨rfl, rfl⟩
  | last hwants hstop =>
    rw [writeResults_of_not_taken hwants hstop, flushCounted_of_not_taken hwants hstop]
    exact ⟨rfl, rfl⟩
  | next hwants htaken _ ih =>
    rw [writeResults_of_taken hwants htaken, flushCounted_of_taken hwants htaken, ← ih.1]
    exact ⟨rfl, ih.2⟩

theorem handsOver_iff :
    HandsOver c net results c' net' ↔ results = c.writeResults net ∧
      c' = (c.flushCounted net).2.1 ∧ net' = (c.flushCounted net).2.2 := by
  constructor
  · intro h
    obtain ⟨hresults, hend⟩ := h.eq
    exact ⟨hresults, congrArg Prod.fst hend, congrArg Prod.snd hend⟩
  · rintro ⟨rfl, rfl, rfl⟩
    exact handsOver_flushCounted c net

/-! ## The rounds -/

theorem write_of_outgoing?_eq_none (h : c.outgoing? = none) (net : ν) :
    c.write net = (.ok false, c, net) := by
  simp [write, h]

/-- A channel that does not want to write has nothing to hand over. -/
theorem outgoing?_of_not_wantsWrite (h : c.wantsWrite net = false) : c.outgoing? = none := by
  unfold outgoing?
  split
  · rename_i hstate
    simp only [wantsWrite, hstate, Bool.or_eq_false_iff, Option.isSome_eq_false_iff,
      Option.isNone_iff_eq_none] at h
    exact h.1
  · rfl

/-- A request that was taken leaves nothing to hand over until the reply comes. -/
theorem outgoing?_of_taken (h : (c.write net).1 = .ok true) :
    (c.write net).2.1.outgoing? = none := by
  obtain ⟨-, hwaits⟩ := write_ok_true h
  simp [outgoing?, hwaits]

theorem wantsWrite_of_taken (h : (c.write net).1 = .ok true) (net' : ν) :
    (c.write net).2.1.wantsWrite net' = Network.hasUnflushed c.link net' := by
  obtain ⟨-, hwaits⟩ := write_ok_true h
  rw [wantsWrite, hwaits, link_write]

/-- Where there is nothing to hand over, the loop changes nothing. It is left after one round even
if the channel goes on to want to write. -/
theorem HandsOver.of_idle (h : HandsOver c net results c' net') (hidle : c.outgoing? = none) :
    c' = c ∧ net' = net ∧ results = if c.wantsWrite net then [.ok false] else [] := by
  have hwrite := write_of_outgoing?_eq_none hidle net
  cases h with
  | rest hrest =>
    rw [if_neg (Bool.eq_false_iff.1 hrest)]
    exact ⟨rfl, rfl, rfl⟩
  | last hwants =>
    rw [hwrite, if_pos hwants]
    exact ⟨rfl, rfl, rfl⟩
  | next _ htaken =>
    rw [hwrite] at htaken
    cases htaken

/-- The loop comes to its first attempt. There is a second round only after one that was taken, if
the link then has something unwritten, and it is not taken. -/
theorem HandsOver.rounds (h : HandsOver c net results c' net') :
    (c', net') = (c.write net).2 ∧
      ((c.write net).1 = .ok true ∧
          results = .ok true :: (if Network.hasUnflushed c.link net' then [.ok false] else []) ∨
        (c.write net).1 ≠ .ok true ∧
          results = if c.wantsWrite net then [(c.write net).1] else []) := by
  cases h with
  | rest hrest =>
    rw [write_of_outgoing?_eq_none (outgoing?_of_not_wantsWrite hrest),
      if_neg (Bool.eq_false_iff.1 hrest)]
    exact ⟨rfl, .inr ⟨nofun, rfl⟩⟩
  | last hwants hstop =>
    rw [if_pos hwants]
    exact ⟨rfl, .inr ⟨hstop, rfl⟩⟩
  | next _ htaken hrest =>
    -- the channel waits for the reply now, so what is left of the loop finds nothing to hand over
    obtain ⟨rfl, rfl, hresults⟩ := hrest.of_idle (outgoing?_of_taken htaken)
    rw [wantsWrite_of_taken htaken] at hresults
    exact ⟨rfl, .inl ⟨htaken, congrArg (.ok true :: ·) hresults⟩⟩

theorem HandsOver.length_le (h : HandsOver c net results c' net') : results.length ≤ 2 := by
  obtain ⟨-, ⟨-, rfl⟩ | ⟨-, rfl⟩⟩ := h.rounds
  · split <;> simp
  · split <;> simp

/-- What is counted is whether the first attempt was taken. -/
theorem flushCounted_cases (c : Channel) (net : ν) :
    (c.write net).1 = .ok true ∧ c.flushCounted net = (1, (c.write net).2) ∨
      (c.write net).1 ≠ .ok true ∧ c.flushCounted net = (0, (c.write net).2) := by
  have hcount := flushCounted_eq_countP c net
  obtain ⟨hend, ⟨htaken, hresults⟩ | ⟨hstop, hresults⟩⟩ := (handsOver_flushCounted c net).rounds
  · refine .inl ⟨htaken, Prod.ext ?_ hend⟩
    rw [hcount, hresults]
    split <;> rfl
  · refine .inr ⟨hstop, Prod.ext ?_ hend⟩
    have hoption : (c.write net).1.toOption ≠ some true := by
      cases hresult : (c.write net).1 with
      | error e => nofun
      | ok sent => exact fun h => hstop (hresult.trans (congrArg Except.ok (Option.some.inj h)))
    rw [hcount, hresults]
    split
    · rw [List.countP_singleton]
      simp [hoption]
    · rfl

/-! ## What the link is asked -/

/-- The request that the link is asked to take: the one in flight, unless it has no words. -/
def offered? (c : Channel) : Option Message :=
  c.outgoing?.filter fun m => !m.words.isEmpty

theorem offered?_eq_some_iff {m : Message} :
    c.offered? = some m ↔ c.outgoing? = some m ∧ m.words ≠ [] := by
  simp [offered?, Option.filter_eq_some_iff]

theorem write_of_offered?_eq_none (h : c.offered? = none) (net : ν) :
    (c.write net).1 ≠ .ok true ∧ (c.write net).2 = (c, net) := by
  rcases c.write_sends net with hsame | ⟨m, hout, hwords, -⟩
  · exact hsame
  · have hsome := offered?_eq_some_iff.2 ⟨hout, hwords⟩
    rw [h] at hsome
    cases hsome

theorem write_of_offered?_eq_some {m : Message} (h : c.offered? = some m) (net : ν) :
    c.write net = ((c.answered (Network.send c.link m net).1).1,
      (c.answered (Network.send c.link m net).1).2, (Network.send c.link m net).2) := by
  obtain ⟨hout, hwords⟩ := offered?_eq_some_iff.1 h
  simp [write, hout, hwords]

theorem flush_of_offered?_eq_none (h : c.offered? = none) (w : World ν) : c.flush w = (c, w) := by
  obtain ⟨hstop, hsame⟩ := write_of_offered?_eq_none h w.net
  rcases c.flushCounted_cases w.net with ⟨htaken, -⟩ | ⟨-, hloop⟩
  · exact absurd htaken hstop
  · rw [flush, hloop, hsame]
    rfl

/-- Handing over comes to asking the link once. -/
theorem flush_of_offered?_eq_some {m : Message} (h : c.offered? = some m) (w : World ν) :
    c.flush w = ((c.answered (Network.send c.link m w.net).1).2,
      ⟨(Network.send c.link m w.net).2, w.metrics.requestsSentBy c.role.word
        (if (Network.send c.link m w.net).1 = .accepted then 1 else 0)⟩) := by
  have hwrite := write_of_offered?_eq_some h w.net
  have htaken : (c.write w.net).1 = .ok true ↔ (Network.send c.link m w.net).1 = .accepted := by
    rw [hwrite]
    cases (Network.send c.link m w.net).1 <;> simp [answered]
  rcases c.flushCounted_cases w.net with ⟨hyes, hloop⟩ | ⟨hno, hloop⟩
  · rw [flush, hloop, if_pos (htaken.1 hyes), hwrite]
  · rw [flush, hloop, if_neg (mt htaken.2 hno), hwrite]

/-- The link fails when it is asked to take the request in flight. -/
def FailsOn (c : Channel) (net : ν) : Prop :=
  ∃ m error, c.offered? = some m ∧ (Network.send c.link m net).1 = .failed error

/-- Requests are handed over in a loop that always ends, in one way, after at most two rounds, on
whatever network, even one that always has something unwritten. The link takes one request at most,
and as many are counted in the metrics, for the role of the channel alone. Where none is taken, the
channel is what it was, or disconnected with its requests as they were if the link failed. A request
that is taken is the one in flight, which no reply was awaited to. Then the channel waits for the
reply, and handing over again does nothing. -/
theorem handing_over_ends (c : Channel) (w : World (Recorded ν)) :
    ∃ (rounds : List (Except WireError Bool)) (taken : List Message),
      (∀ results c' net', HandsOver c w.net results c' net' ↔
        results = rounds ∧ c' = (c.flush w).1 ∧ net' = (c.flush w).2.net) ∧
      rounds.length ≤ 2 ∧
      (c.flush w).2.net.accepted = w.net.accepted ++ taken.map (c.link, ·) ∧
      (c.flush w).2.metrics = w.metrics.requestsSentBy c.role.word taken.length ∧
      (∀ role, (c.flush w).2.metrics.sentBy role =
        w.metrics.sentBy role + if c.role = role then (taken.length : Int) else 0) ∧
      (taken = [] ∧ ¬ c.FailsOn w.net ∧ (c.flush w).1 = c ∨
        taken = [] ∧ c.FailsOn w.net ∧ (c.flush w).1 = { c with state := .disconnected } ∨
        ∃ m, c.state = .sendFrontOfQueue ∧ c.current = some m ∧ taken = [m] ∧
          (c.flush w).1 =
            { c with state := .waitResponse, stats.sent := c.stats.sent + 1 } ∧
          ∀ w' : World ν, (c.flush w).1.flush w' = ((c.flush w).1, w')) := by
  obtain ⟨taken, haccepted, hmetrics, hafter⟩ : ∃ taken : List Message,
      (c.flush w).2.net.accepted = w.net.accepted ++ taken.map (c.link, ·) ∧
      (c.flush w).2.metrics = w.metrics.requestsSentBy c.role.word taken.length ∧
      (taken = [] ∧ ¬ c.FailsOn w.net ∧ (c.flush w).1 = c ∨
        taken = [] ∧ c.FailsOn w.net ∧ (c.flush w).1 = c.disconnect ∨
        ∃ m, c.outgoing? = some m ∧ taken = [m] ∧ (c.flush w).1 = (c.answered .accepted).2) := by
    cases hoffer : c.offered? with
    | none =>
      have hfine : ¬ c.FailsOn w.net := by simp [FailsOn, hoffer]
      rw [flush_of_offered?_eq_none hoffer w]
      exact ⟨[], (List.append_nil _).symm, rfl, .inl ⟨rfl, hfine, rfl⟩⟩
    | some m =>
      have hout := (offered?_eq_some_iff.1 hoffer).1
      have hrecord := Recorded.accepted_send c.link m w.net
      rw [flush_of_offered?_eq_some hoffer w]
      cases hanswer : (Network.send c.link m w.net).1 with
      | accepted =>
        rw [hanswer] at hrecord
        exact ⟨[m], hrecord, rfl, .inr (.inr ⟨m, hout, rfl, rfl⟩)⟩
      | wouldBlock =>
        rw [hanswer] at hrecord
        have hfine : ¬ c.FailsOn w.net := by simp [FailsOn, hoffer, hanswer]
        exact ⟨[], hrecord, rfl, .inl ⟨rfl, hfine, rfl⟩⟩
      | failed error =>
        rw [hanswer] at hrecord
        exact ⟨[], hrecord, rfl, .inr (.inl ⟨rfl, ⟨m, error, hoffer, hanswer⟩, rfl⟩)⟩
  have hloop := c.handsOver_flushCounted w.net
  refine ⟨c.writeResults w.net, taken, fun _ _ _ => handsOver_iff, hloop.length_le, haccepted,
    hmetrics, fun role => ?_, ?_⟩
  · rw [hmetrics]
    exact w.metrics.sentBy_requestsSentBy c.role role taken.length
  · rcases hafter with hsame | hlost | ⟨m, hout, htaken, hwaits⟩
    · exact .inl hsame
    · exact .inr (.inl hlost)
    · obtain ⟨hstate, hcurrent⟩ := outgoing?_eq_some hout
      refine .inr (.inr ⟨m, hstate, hcurrent, htaken, hwaits, fun w' => ?_⟩)
      rw [hwaits]
      exact flush_of_offered?_eq_none rfl w'

end ArrayWatch.Channel
