import ArrayWatch.Channel.Run
import ArrayWatch.Proofs.RecordedNetwork

/-!
# What a channel keeps

A channel keeps its role, and it stays on its link until it is reset, whatever it receives and
sends. It opens no link itself. A channel that is disconnected stays so, and one that has stopped to
wait for its connection does not begin to wait again.

* `Channel.write_sends`, `Channel.write_cases`: what an attempt to write comes to.
* `Channel.flushCounted_counts`, `Channel.flushCounted_keeps`: what every attempt to write counts
  and keeps is counted and kept by all of them together.
* `Channel.writeResults`: what the attempts come to, one after the other.
* `Channel.identity_read`, `Channel.identity_write`, `Channel.identity_flush`: role and link.
* `Channel.accepted_read`, `Channel.opened_read`, `Channel.opened_flush`: what is recorded.
-/

namespace ArrayWatch.Channel

variable {ν : Type} [Network ν]

/-! ## Role and link -/

/-- Which connection the channel serves, and the link that it works on. -/
def identity (c : Channel) : ChannelRole × Link := (c.role, c.link)

theorem identity_push (c : Channel) (m : Message) : (c.push m).identity = c.identity := by
  unfold push
  split <;> rfl

theorem identity_receiveConnected (c : Channel) : c.receiveConnected.identity = c.identity := by
  unfold receiveConnected
  dsimp only
  split <;> rfl

theorem identity_fail (c : Channel) : c.fail.identity = c.identity := by
  unfold fail
  dsimp only
  split <;> rfl

theorem identity_receiveReply (c : Channel) (answer : Message) :
    (c.receiveReply answer).1.identity = c.identity := by
  unfold receiveReply
  split
  · rfl
  · dsimp only
    split
    · rfl
    · exact identity_fail c

theorem identity_receiveMessage (c : Channel) (m : Message) :
    (c.receiveMessage m).1.identity = c.identity := by
  unfold receiveMessage
  split
  · rfl
  · exact identity_receiveReply c m
  · rfl

theorem identity_receive (c : Channel) (batch : List LinkEvent) :
    (c.receive batch).1.identity = c.identity := by
  induction batch generalizing c with
  | nil => rfl
  | cons event rest ih =>
    cases event with
    | connected => exact (ih _).trans (identity_receiveConnected c)
    | line m => exact (ih _).trans (identity_receiveMessage c m)
    | closed reason => rfl

theorem identity_answered (c : Channel) (answer : SendAnswer) :
    (c.answered answer).2.identity = c.identity := by
  cases answer <;> rfl

@[simp] theorem link_push (c : Channel) (m : Message) : (c.push m).link = c.link :=
  congrArg Prod.snd (identity_push c m)

theorem role_push (c : Channel) (m : Message) : (c.push m).role = c.role :=
  congrArg Prod.fst (identity_push c m)

/-! ## Requests in flight -/

theorem outgoing?_eq_some {c : Channel} {m : Message} (h : c.outgoing? = some m) :
    c.state = .sendFrontOfQueue ∧ c.current = some m := by
  unfold outgoing? at h
  split at h
  · exact ⟨‹_›, h⟩
  · contradiction

theorem answeredBy?_eq_some {c : Channel} {answer request : Message}
    (h : c.answeredBy? answer = some request) :
    c.state = .waitResponse ∧ c.current = some request ∧ request.name? = answer.name? := by
  unfold answeredBy? at h
  split at h
  · obtain ⟨hcurrent, hname⟩ := Option.filter_eq_some_iff.1 h
    exact ⟨‹_›, hcurrent, by simpa using hname⟩
  · contradiction

/-! ## Reading and writing -/

theorem read_of_isDisconnected {c : Channel} (h : c.isDisconnected) (net : ν) :
    c.read net = (c, [], net) := by
  simp [read, h]

theorem read_of_not_isDisconnected {c : Channel} (h : ¬ c.isDisconnected) (net : ν) :
    c.read net = ((c.receive (Network.drain c.link net).1).1,
      (c.receive (Network.drain c.link net).1).2, (Network.drain c.link net).2) := by
  simp [read, h]

theorem identity_read (c : Channel) (net : ν) : (c.read net).1.identity = c.identity := by
  by_cases h : c.isDisconnected
  · rw [read_of_isDisconnected h]
  · rw [read_of_not_isDisconnected h]
    exact identity_receive c _

@[simp] theorem link_read (c : Channel) (net : ν) : (c.read net).1.link = c.link :=
  congrArg Prod.snd (identity_read c net)

theorem role_read (c : Channel) (net : ν) : (c.read net).1.role = c.role :=
  congrArg Prod.fst (identity_read c net)

/-- An attempt to write does nothing, or it hands the request in flight to the link once. A request
without words is not handed over. -/
theorem write_sends (c : Channel) (net : ν) :
    ((c.write net).1 ≠ .ok true ∧ (c.write net).2 = (c, net)) ∨
      ∃ m, c.outgoing? = some m ∧ m.words ≠ [] ∧
        c.write net = ((c.answered (Network.send c.link m net).1).1,
          (c.answered (Network.send c.link m net).1).2, (Network.send c.link m net).2) := by
  unfold write
  cases hout : c.outgoing? with
  | none => exact .inl ⟨nofun, rfl⟩
  | some m =>
    by_cases hm : m.words.isEmpty
    · refine .inl ?_
      simp [hm]
    · exact .inr ⟨m, rfl, by simpa using hm, by simp [hm]⟩

theorem write_cases (c : Channel) (net : ν) :
    ((c.write net).1 ≠ .ok true ∧ (c.write net).2 = (c, net)) ∨
      ∃ m, c.outgoing? = some m ∧
        c.write net = ((c.answered (Network.send c.link m net).1).1,
          (c.answered (Network.send c.link m net).1).2, (Network.send c.link m net).2) := by
  rcases write_sends c net with hsame | ⟨m, hout, -, hsend⟩
  · exact .inl hsame
  · exact .inr ⟨m, hout, hsend⟩

theorem identity_write (c : Channel) (net : ν) : (c.write net).2.1.identity = c.identity := by
  rcases write_cases c net with ⟨-, h⟩ | ⟨m, -, h⟩
  · rw [h]
  · rw [h]
    exact identity_answered c _

@[simp] theorem link_write (c : Channel) (net : ν) : (c.write net).2.1.link = c.link :=
  congrArg Prod.snd (identity_write c net)

theorem flushCounted_of_taken {c : Channel} {net : ν} (hwants : c.wantsWrite net = true)
    (htaken : (c.write net).1 = .ok true) :
    c.flushCounted net =
      let (sent, c', net') := (c.write net).2.1.flushCounted (c.write net).2.2
      (sent + 1, c', net') := by
  rw [flushCounted, if_pos hwants]
  split
  · rename_i heq
    rw [heq]
  · rename_i hstop heq
    rw [heq] at htaken
    exact absurd htaken hstop

/-- Where an attempt to write does not succeed, there is no other one. -/
theorem flushCounted_of_not_taken {c : Channel} {net : ν} (hwants : c.wantsWrite net = true)
    (hstop : (c.write net).1 ≠ .ok true) :
    c.flushCounted net = (0, (c.write net).2.1, (c.write net).2.2) := by
  rw [flushCounted, if_pos hwants]
  split
  · rename_i heq
    rw [heq] at hstop
    exact absurd rfl hstop
  · rename_i heq
    rw [heq]

/-- The attempts to write come one after the other, and those that are taken are counted. -/
theorem flushCounted_counts {P : Nat → Channel → ν → Prop}
    (hwrite : ∀ n c net, P n c net →
      ((c.write net).1 = .ok true → P (n + 1) (c.write net).2.1 (c.write net).2.2) ∧
        ((c.write net).1 ≠ .ok true → P n (c.write net).2.1 (c.write net).2.2))
    {n : Nat} {c : Channel} {net : ν} (h : P n c net) :
    P (n + (c.flushCounted net).1) (c.flushCounted net).2.1 (c.flushCounted net).2.2 := by
  induction c, net using flushCounted.induct generalizing n with
  | case1 c net hwants c' net' hsent _ _ _ _ ih =>
    have htaken : (c.write net).1 = .ok true := by rw [hsent]
    have hrest := (hwrite n c net h).1 htaken
    rw [flushCounted_of_taken hwants htaken]
    rw [hsent] at hrest ⊢
    have hall := ih hrest
    rwa [Nat.add_assoc, Nat.add_comm 1] at hall
  | case2 c net hwants result c' net' hstop hsent =>
    have hfirst : (c.write net).1 ≠ .ok true := by rwa [hsent]
    rw [flushCounted_of_not_taken hwants hfirst]
    exact (hwrite n c net h).2 hfirst
  | case3 c net hwants =>
    unfold flushCounted
    rwa [if_neg hwants]

/-- What every attempt to write keeps is kept by all of them. -/
theorem flushCounted_keeps {P : Channel → ν → Prop}
    (hwrite : ∀ c net, P c net → P (c.write net).2.1 (c.write net).2.2) {c : Channel} {net : ν}
    (h : P c net) : P (c.flushCounted net).2.1 (c.flushCounted net).2.2 :=
  flushCounted_counts (P := fun _ => P)
    (fun _ c net h => ⟨fun _ => hwrite c net h, fun _ => hwrite c net h⟩) (n := 0) h

/-- The results of the attempts to write, one for each time that the channel wants to write while
requests are handed over. -/
def writeResults (c : Channel) (net : ν) : List (Except WireError Bool) :=
  if c.wantsWrite net then
    match _h : c.write net with
    | (.ok true, c', net') => .ok true :: writeResults c' net'
    | (result, _, _) => [result]
  else []
termination_by if c.state = .sendFrontOfQueue then 1 else 0
decreasing_by
  have hw : (c.write net).1 = .ok true := by rw [_h]
  obtain ⟨h1, h2⟩ := write_ok_true hw
  rw [_h] at h2
  simp_all

theorem writeResults_of_taken {c : Channel} {net : ν} (hwants : c.wantsWrite net = true)
    (htaken : (c.write net).1 = .ok true) :
    c.writeResults net =
      .ok true :: (c.write net).2.1.writeResults (c.write net).2.2 := by
  rw [writeResults, if_pos hwants]
  split
  · rename_i heq
    rw [heq]
  · rename_i hstop heq
    rw [heq] at htaken
    exact absurd htaken hstop

theorem writeResults_of_not_taken {c : Channel} {net : ν} (hwants : c.wantsWrite net = true)
    (hstop : (c.write net).1 ≠ .ok true) : c.writeResults net = [(c.write net).1] := by
  rw [writeResults, if_pos hwants]
  split
  · rename_i heq
    rw [heq] at hstop
    exact absurd rfl hstop
  · rename_i heq
    rw [heq]

/-- The number that is counted is the number of attempts that were taken. -/
theorem flushCounted_eq_countP (c : Channel) (net : ν) :
    (c.flushCounted net).1 =
      (c.writeResults net).countP fun result => result.toOption = some true := by
  induction c, net using writeResults.induct with
  | case1 c net hwants c' net' hsent ih =>
    have htaken : (c.write net).1 = .ok true := by rw [hsent]
    rw [writeResults_of_taken hwants htaken, flushCounted_of_taken hwants htaken, hsent]
    simpa [Except.toOption] using ih
  | case2 c net hwants result c' net' hstop hsent =>
    have hfirst : (c.write net).1 ≠ .ok true := by rwa [hsent]
    have hoption : (c.write net).1.toOption ≠ some true := by
      rw [hsent]
      cases result with
      | error e => simp [Except.toOption]
      | ok sent => exact fun h => hstop (congrArg Except.ok (Option.some.inj h))
    rw [writeResults_of_not_taken hwants hfirst, flushCounted_of_not_taken hwants hfirst]
    simp [hoption]
  | case3 c net hwants =>
    rw [flushCounted, if_neg hwants, writeResults, if_neg hwants]
    rfl

/-- Every result is that of an attempt to write where what the attempts keep still holds. -/
theorem exists_of_mem_writeResults {P : Channel → ν → Prop}
    (hwrite : ∀ c net, P c net → P (c.write net).2.1 (c.write net).2.2) {c : Channel} {net : ν}
    (h : P c net) {result : Except WireError Bool} (hresult : result ∈ c.writeResults net) :
    ∃ c' net', P c' net' ∧ (c'.write net').1 = result := by
  induction c, net using writeResults.induct with
  | case1 c net hwants c' net' htaken ih =>
    have hkept := hwrite c net h
    rw [writeResults_of_taken hwants (by rw [htaken]), htaken] at hresult
    rw [htaken] at hkept
    rcases List.mem_cons.1 hresult with rfl | hlater
    · exact ⟨c, net, h, by rw [htaken]⟩
    · exact ih hkept hlater
  | case2 c net hwants first c' net' hstop hfirst =>
    rw [writeResults_of_not_taken hwants (by rwa [hfirst])] at hresult
    obtain rfl := List.mem_singleton.1 hresult
    exact ⟨c, net, h, rfl⟩
  | case3 c net hwants =>
    rw [writeResults, if_neg hwants] at hresult
    contradiction

theorem identity_flush (c : Channel) (w : World ν) : (c.flush w).1.identity = c.identity :=
  flushCounted_keeps (P := fun c' _ => c'.identity = c.identity)
    (fun c' net' h => (identity_write c' net').trans h) rfl

@[simp] theorem link_flush (c : Channel) (w : World ν) : (c.flush w).1.link = c.link :=
  congrArg Prod.snd (identity_flush c w)

theorem role_flush (c : Channel) (w : World ν) : (c.flush w).1.role = c.role :=
  congrArg Prod.fst (identity_flush c w)

/-! ## States -/

theorem isDisconnected_push (c : Channel) (m : Message) :
    (c.push m).isDisconnected = c.isDisconnected := by
  unfold push
  split
  · rename_i hidle
    rw [isDisconnected, isDisconnected, hidle.1]
    rfl
  · rfl

theorem flush_of_isDisconnected {c : Channel} (h : c.isDisconnected) (w : World ν) :
    (c.flush w).1 = c := by
  have hstate : c.state = .disconnected := by simpa [isDisconnected] using h
  have hwants : c.wantsWrite w.net = false := by simp [wantsWrite, hstate]
  unfold flush flushCounted
  simp [hwants]

theorem push_not_waiting {c : Channel} (h : c.state ≠ .waitConnect) (m : Message) :
    (c.push m).state ≠ .waitConnect := by
  unfold push
  split
  · nofun
  · exact h

theorem advance_not_waiting (c : Channel) : c.advance.state ≠ .waitConnect := by
  unfold advance
  dsimp only
  split <;> nofun

theorem fail_not_waiting (c : Channel) : c.fail.state ≠ .waitConnect := by
  unfold fail
  dsimp only
  split
  · exact advance_not_waiting _
  · nofun

theorem receiveMessage_not_waiting {c : Channel} (h : c.state ≠ .waitConnect) (m : Message) :
    (c.receiveMessage m).1.state ≠ .waitConnect := by
  unfold receiveMessage
  split
  · exact h
  · unfold receiveReply
    split
    · exact h
    · dsimp only
      split
      · exact advance_not_waiting _
      · exact fail_not_waiting c
  · exact h

theorem receive_not_waiting {c : Channel} (h : c.state ≠ .waitConnect) (batch : List LinkEvent) :
    (c.receive batch).1.state ≠ .waitConnect := by
  induction batch generalizing c with
  | nil => exact h
  | cons event rest ih =>
    cases event with
    | connected =>
      refine ih ?_
      unfold receiveConnected
      dsimp only
      rwa [if_neg h]
    | line m => exact ih (receiveMessage_not_waiting h m)
    | closed reason => nofun

theorem read_not_waiting {c : Channel} (h : c.state ≠ .waitConnect) (net : ν) :
    (c.read net).1.state ≠ .waitConnect := by
  by_cases hdown : c.isDisconnected
  · rwa [read_of_isDisconnected hdown]
  · rw [read_of_not_isDisconnected hdown]
    exact receive_not_waiting h _

theorem write_not_waiting {c : Channel} (h : c.state ≠ .waitConnect) (net : ν) :
    (c.write net).2.1.state ≠ .waitConnect := by
  rcases write_cases c net with ⟨-, hsame⟩ | ⟨m, -, hsend⟩
  · rwa [hsame]
  · rw [hsend]
    cases (Network.send c.link m net).1 with
    | accepted => nofun
    | wouldBlock => exact h
    | failed error => nofun

theorem flush_not_waiting {c : Channel} (h : c.state ≠ .waitConnect) (w : World ν) :
    (c.flush w).1.state ≠ .waitConnect :=
  flushCounted_keeps (P := fun c _ => c.state ≠ .waitConnect)
    (fun _ net' h' => write_not_waiting h' net') h

variable (ν) in
/-- What becomes of a channel that is not reset. -/
inductive Moves (c : Channel) : Channel → Prop
  | stay : Moves c c
  | push (m : Message) : Moves c (c.push m)
  | read (net : ν) : Moves c (c.read net).1
  | flush (w : World ν) : Moves c (c.flush w).1

theorem Moves.isDisconnected {c c' : Channel} (h : Moves ν c c') (hdown : c.isDisconnected) :
    c'.isDisconnected := by
  cases h with
  | stay => exact hdown
  | push m => rwa [isDisconnected_push]
  | read net => rwa [read_of_isDisconnected hdown]
  | flush w => rwa [flush_of_isDisconnected hdown]

theorem Moves.link {c c' : Channel} (h : Moves ν c c') : c'.link = c.link := by
  cases h with
  | stay => rfl
  | push m => exact link_push c m
  | read net => exact link_read c net
  | flush w => exact link_flush c w

theorem Moves.not_waiting {c c' : Channel} (h : Moves ν c c') (hstate : c.state ≠ .waitConnect) :
    c'.state ≠ .waitConnect := by
  cases h with
  | stay => exact hstate
  | push m => exact push_not_waiting hstate m
  | read net => exact read_not_waiting hstate net
  | flush w => exact flush_not_waiting hstate w

/-! ## The record -/

theorem accepted_read (c : Channel) (net : Recorded ν) :
    (c.read net).2.2.accepted = net.accepted := by
  by_cases hdown : c.isDisconnected
  · rw [read_of_isDisconnected hdown]
  · rw [read_of_not_isDisconnected hdown]
    exact Recorded.accepted_drain c.link net

@[simp] theorem opened_read (c : Channel) (net : Recorded ν) :
    (c.read net).2.2.opened = net.opened := by
  by_cases hdown : c.isDisconnected
  · rw [read_of_isDisconnected hdown]
  · rw [read_of_not_isDisconnected hdown]
    exact Recorded.opened_drain c.link net

@[simp] theorem opened_write (c : Channel) (net : Recorded ν) :
    (c.write net).2.2.opened = net.opened := by
  rcases write_cases c net with ⟨-, hsame⟩ | ⟨m, -, hsend⟩
  · rw [hsame]
  · rw [hsend]
    exact Recorded.opened_send c.link m net

@[simp] theorem opened_flush (c : Channel) (w : World (Recorded ν)) :
    (c.flush w).2.net.opened = w.net.opened :=
  @flushCounted_keeps (Recorded ν) _ (fun _ net => net.opened = w.net.opened)
    (fun c' net' h => (opened_write c' net').trans h) c w.net rfl

end ArrayWatch.Channel
