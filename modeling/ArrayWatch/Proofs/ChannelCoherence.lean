import ArrayWatch.Link.Scripted
import ArrayWatch.Proofs.QueueOrder

/-!
# States and counts of a channel

The state of a channel says whether a request is in flight, and its counts balance: every request
that was sent has been answered, or waits for its reply, or was given up with its connection. A
connection is given up when the channel disconnects, and the request is forgotten when the channel
is reset, but the counts go on.

* `Channel.Coherent`: what each state says about the requests.
* `Channel.Accounted`: the balance of the counts.
* `Channel.Orderly`: both of them. `Channel.orderly_receive`, `Channel.orderly_push`,
  `Channel.orderly_write`, `Channel.orderly_disconnect` and `Channel.orderly_reset` are its steps.
* `ChannelHistory.coherent_and_accounted`: the law for every life of a channel.
-/

namespace ArrayWatch

namespace ChannelState

/-- The number of requests that wait for a reply. -/
def awaited : ChannelState → Nat
  | waitResponse => 1
  | _ => 0

/-- The number of connections that are lost and were not replaced yet. -/
def lost : ChannelState → Nat
  | disconnected => 1
  | _ => 0

theorem awaited_add_lost_le (s : ChannelState) : s.awaited + s.lost ≤ 1 := by
  cases s <;> decide

end ChannelState

namespace Channel

/-! ## What holds of a channel -/

/-- What the state of a channel says about its requests. -/
structure Coherent (c : Channel) : Prop where
  waitConnect : c.state = .waitConnect → c.current = none
  sendFrontOfQueue : c.state = .sendFrontOfQueue → ∃ m, c.current = some m
  waitResponse : c.state = .waitResponse → ∃ m, c.current = some m ∧ m.words ≠ []
  monitor : c.state = .monitor → c.current = none ∧ c.queue.messages = []

/-- The replies that answered a request. -/
def answers (c : Channel) : Nat := c.stats.repliesOk + c.stats.repliesFailed

/-- A request that was sent is answered or awaited, or it was given up: at most one for each reset,
and one with a connection that is lost. -/
def Accounted (resets : Nat) (c : Channel) : Prop :=
  ∃ givenUp, givenUp ≤ resets + c.state.lost ∧
    c.stats.sent = c.answers + c.state.awaited + givenUp

/-- The state fits the requests, and the counts balance. -/
structure Orderly (resets : Nat) (c : Channel) : Prop where
  coherent : c.Coherent
  accounted : c.Accounted resets

variable {c : Channel} {resets : Nat}

/-! ## Receiving -/

/-- The next request is taken in flight, or there is none and the channel is idle. -/
theorem advance_cases (c : Channel) :
    (c.queue.messages = [] ∧ c.advance =
        { c with failures := 0, current := none, queue := ⟨[]⟩, state := .monitor }) ∨
      ∃ m rest, c.queue.messages = m :: rest ∧ c.advance =
        { c with failures := 0, current := some m, queue := ⟨rest⟩, state := .sendFrontOfQueue } := by
  unfold advance MessageQueue.pop
  cases hq : c.queue.messages with
  | nil => exact .inl ⟨rfl, rfl⟩
  | cons m rest => exact .inr ⟨m, rest, rfl, rfl⟩

/-- Where nothing is awaited any more, the next request may be taken up. -/
theorem orderly_advance {givenUp : Nat} (hle : givenUp ≤ resets)
    (hsent : c.stats.sent = c.answers + givenUp) : c.advance.Orderly resets := by
  rcases c.advance_cases with ⟨-, hidle⟩ | ⟨m, rest, -, hnext⟩
  · rw [hidle]
    exact ⟨⟨nofun, nofun, nofun, fun _ => ⟨rfl, rfl⟩⟩, givenUp, hle, hsent⟩
  · rw [hnext]
    exact ⟨⟨nofun, fun _ => ⟨m, rfl⟩, nofun, nofun⟩, givenUp, hle, hsent⟩

theorem orderly_receiveConnected (h : c.Orderly resets) : c.receiveConnected.Orderly resets := by
  obtain ⟨hcoherent, givenUp, hle, hsent⟩ := h
  unfold receiveConnected
  dsimp only
  split
  · rename_i hstate
    rw [hstate] at hle hsent
    exact orderly_advance hle hsent
  · exact ⟨⟨hcoherent.1, hcoherent.2, hcoherent.3, hcoherent.4⟩, givenUp, hle, hsent⟩

/-- A reply that answers the request in flight settles one request that was sent. -/
theorem orderly_receiveReply (h : c.Orderly resets) (answer : Message) :
    (c.receiveReply answer).1.Orderly resets := by
  obtain ⟨hcoherent, givenUp, hle, hsent⟩ := h
  unfold receiveReply
  cases hanswered : c.answeredBy? answer with
  | none => exact ⟨⟨hcoherent.1, hcoherent.2, hcoherent.3, hcoherent.4⟩, givenUp, hle, hsent⟩
  | some request =>
    obtain ⟨hstate, hcurrent, -⟩ := answeredBy?_eq_some hanswered
    rw [hstate] at hle hsent
    have hbalance : c.stats.sent = c.stats.repliesOk + c.stats.repliesFailed + 1 + givenUp := hsent
    dsimp only
    split
    · refine orderly_advance hle ?_
      show c.stats.sent = c.stats.repliesOk + 1 + c.stats.repliesFailed + givenUp
      omega
    · unfold fail
      dsimp only
      split
      · refine orderly_advance hle ?_
        show c.stats.sent = c.stats.repliesOk + (c.stats.repliesFailed + 1) + givenUp
        omega
      · refine ⟨⟨nofun, fun _ => ⟨request, hcurrent⟩, nofun, nofun⟩, givenUp, hle, ?_⟩
        show c.stats.sent = c.stats.repliesOk + (c.stats.repliesFailed + 1) + 0 + givenUp
        omega

theorem orderly_receiveMessage (h : c.Orderly resets) (m : Message) :
    (c.receiveMessage m).1.Orderly resets := by
  obtain ⟨hcoherent, haccounted⟩ := id h
  unfold receiveMessage
  split
  · exact ⟨⟨hcoherent.1, hcoherent.2, hcoherent.3, hcoherent.4⟩, haccounted⟩
  · exact orderly_receiveReply h m
  · exact ⟨⟨hcoherent.1, hcoherent.2, hcoherent.3, hcoherent.4⟩, haccounted⟩

/-- The request that was awaited is given up with the connection. -/
theorem orderly_disconnect (h : c.Orderly resets) : c.disconnect.Orderly resets := by
  obtain ⟨-, givenUp, hle, hsent⟩ := h
  have hone := c.state.awaited_add_lost_le
  refine ⟨⟨nofun, nofun, nofun, nofun⟩, c.state.awaited + givenUp, ?_, ?_⟩
  · show c.state.awaited + givenUp ≤ resets + 1
    omega
  · show c.stats.sent = c.answers + 0 + (c.state.awaited + givenUp)
    omega

/-- A batch of events keeps the order, whatever comes in it. -/
theorem orderly_receive (h : c.Orderly resets) (batch : List LinkEvent) :
    (c.receive batch).1.Orderly resets := by
  induction batch generalizing c with
  | nil => exact h
  | cons event rest ih =>
    cases event with
    | connected => exact ih (orderly_receiveConnected h)
    | line m => exact ih (orderly_receiveMessage h m)
    | closed reason => exact orderly_disconnect h

/-! ## Asking, sending and starting over -/

theorem orderly_push (h : c.Orderly resets) (m : Message) : (c.push m).Orderly resets := by
  obtain ⟨hcoherent, haccounted⟩ := id h
  unfold push
  split
  · rename_i hidle
    obtain ⟨givenUp, hle, hsent⟩ := haccounted
    rw [hidle.1] at hle hsent
    exact ⟨⟨nofun, fun _ => ⟨m, rfl⟩, nofun, nofun⟩, givenUp, hle, hsent⟩
  · rename_i hbusy
    refine ⟨⟨hcoherent.1, hcoherent.2, hcoherent.3, fun hstate => ?_⟩, haccounted⟩
    exact absurd ⟨hstate, (hcoherent.monitor hstate).1⟩ hbusy

section Network

variable {ν : Type} [Network ν]

theorem orderly_read (h : c.Orderly resets) (net : ν) : (c.read net).1.Orderly resets := by
  by_cases hdown : c.isDisconnected
  · rwa [read_of_isDisconnected hdown]
  · rw [read_of_not_isDisconnected hdown]
    exact orderly_receive h _

theorem orderly_write (h : c.Orderly resets) (net : ν) : (c.write net).2.1.Orderly resets := by
  rcases c.write_sends net with ⟨-, hsame⟩ | ⟨m, hout, hwords, hsend⟩
  · rwa [hsame]
  · rw [hsend]
    obtain ⟨hstate, hcurrent⟩ := outgoing?_eq_some hout
    cases (Network.send c.link m net).1 with
    | accepted =>
      obtain ⟨-, givenUp, hle, hsent⟩ := h
      rw [hstate] at hle hsent
      refine ⟨⟨nofun, nofun, fun _ => ⟨m, hcurrent, hwords⟩, nofun⟩, givenUp, hle, ?_⟩
      have hbalance : c.stats.sent = c.answers + givenUp := hsent
      show c.stats.sent + 1 = c.answers + 1 + givenUp
      omega
    | wouldBlock => exact h
    | failed error => exact orderly_disconnect h

end Network

/-- A channel that starts over forgets the request that it awaited. -/
theorem orderly_reset (h : c.Orderly resets) (link : Link) (seed : List Message) :
    (c.reset link seed).Orderly (resets + 1) := by
  obtain ⟨-, givenUp, hle, hsent⟩ := h
  have hone := c.state.awaited_add_lost_le
  refine ⟨⟨fun _ => rfl, nofun, nofun, nofun⟩, c.state.awaited + givenUp, ?_, ?_⟩
  · show c.state.awaited + givenUp ≤ resets + 1 + 0
    omega
  · show c.stats.sent = c.answers + 0 + (c.state.awaited + givenUp)
    omega

/-! ## New channels -/

/-- The channel was just made. -/
def IsNew (c : Channel) : Prop :=
  ∃ role link seed cap, c = connecting role link seed cap ∨ c = connected role link seed cap

theorem orderly_of_isNew (h : c.IsNew) : c.Orderly 0 := by
  obtain ⟨role, link, seed, cap, rfl | rfl⟩ := h
  · exact ⟨⟨fun _ => rfl, nofun, nofun, nofun⟩, 0, Nat.le_refl 0, rfl⟩
  · exact orderly_advance (Nat.le_refl 0) rfl

end Channel

/-! ## Lives -/

/-- What happens to a channel in the course of its life. -/
inductive ChannelDeed (ν : Type) where
  | act (act : ChannelAct ν)
  | reset (link : Link) (seed : List Message)

/-- Whether the channel starts over. -/
def ChannelDeed.isReset {ν : Type} : ChannelDeed ν → Bool
  | act _ => false
  | reset .. => true

namespace ChannelHistory

variable {ν : Type} [Network ν] {h : ChannelHistory ν} {resets : Nat}

def perform (h : ChannelHistory ν) : ChannelDeed ν → ChannelHistory ν
  | .act act => h.step act
  | .reset link seed => { h with channel := h.channel.reset link seed }

/-- Everything that happens to a channel, reset after reset. -/
def live (h : ChannelHistory ν) (deeds : List (ChannelDeed ν)) : ChannelHistory ν :=
  deeds.foldl perform h

theorem orderly_step (horderly : h.channel.Orderly resets) (act : ChannelAct ν) :
    (h.step act).channel.Orderly resets := by
  cases act with
  | push m => exact Channel.orderly_push horderly m
  | disconnect => exact Channel.orderly_disconnect horderly
  | read => exact Channel.orderly_read horderly h.net
  | write => exact Channel.orderly_write horderly h.net
  | remote move => exact horderly

theorem orderly_live (horderly : h.channel.Orderly resets) (deeds : List (ChannelDeed ν)) :
    (h.live deeds).channel.Orderly (resets + deeds.countP ChannelDeed.isReset) := by
  induction deeds generalizing h resets with
  | nil => exact horderly
  | cons deed rest ih =>
    cases deed with
    | act act => exact ih (orderly_step horderly act)
    | reset link seed =>
      have hrest := ih (h := h.perform (.reset link seed)) (Channel.orderly_reset horderly link seed)
      rw [List.countP_cons_of_pos rfl]
      rwa [Nat.add_assoc, Nat.add_comm 1] at hrest

/-- A disconnected channel takes requests for later, and does nothing else until it is reset. -/
theorem step_of_disconnected (hdown : h.channel.state = .disconnected) (act : ChannelAct ν) :
    (h.step act).channel.state = .disconnected ∧ (h.step act).events = h.events ∧
      (h.step act).net.accepted = h.net.accepted := by
  have hlost : h.channel.isDisconnected := by simp [Channel.isDisconnected, hdown]
  cases act with
  | push m =>
    have hpush := (h.channel.isDisconnected_push m).trans hlost
    have hstate : (h.channel.push m).state = .disconnected := by
      simpa [Channel.isDisconnected] using hpush
    exact ⟨hstate, rfl, rfl⟩
  | disconnect => exact ⟨rfl, rfl, rfl⟩
  | read =>
    simp only [step, Channel.read_of_isDisconnected hlost]
    exact ⟨hdown, List.append_nil _, trivial⟩
  | write =>
    have hnone : h.channel.outgoing? = none := if_neg (by simp [hdown])
    simp only [step, Channel.write, hnone]
    exact ⟨hdown, trivial, trivial⟩
  | remote move => exact ⟨hdown, rfl, rfl⟩

/-- Whatever happens to a channel, its state says whether a request is in flight, and its counts
balance: there are never more answers than requests that were sent, and beyond the answers at most
one request for each reset and one more. As long as the channel was neither reset nor disconnected,
there is exactly the request that is awaited. A channel that is disconnected is so until it is
reset, and in the meantime nothing is sent and no event comes of it. -/
theorem coherent_and_accounted {c : Channel} (hnew : c.IsNew) (net : Recorded ν)
    (deeds : List (ChannelDeed ν)) :
    let h := live ⟨c, net, []⟩ deeds
    let stats := h.channel.stats
    let resets := deeds.countP ChannelDeed.isReset
    h.channel.Coherent ∧
      stats.repliesOk + stats.repliesFailed ≤ stats.sent ∧
      stats.sent ≤ stats.repliesOk + stats.repliesFailed + resets + 1 ∧
      (resets = 0 → h.channel.state ≠ .disconnected →
        stats.sent = stats.repliesOk + stats.repliesFailed +
          if h.channel.state = .waitResponse then 1 else 0) ∧
      (h.channel.state = .disconnected → ∀ deed,
        ((h.perform deed).channel.state ≠ .disconnected ↔ deed.isReset) ∧
          (deed.isReset = false → (h.perform deed).events = h.events ∧
            (h.perform deed).net.accepted = h.net.accepted)) := by
  intro h stats resets
  have horderly : h.channel.Orderly (0 + resets) :=
    orderly_live (h := ⟨c, net, []⟩) (Channel.orderly_of_isNew hnew) deeds
  obtain ⟨hcoherent, givenUp, hle, hsent⟩ := horderly
  have hbalance : stats.sent =
      stats.repliesOk + stats.repliesFailed + h.channel.state.awaited + givenUp := hsent
  have hone := h.channel.state.awaited_add_lost_le
  refine ⟨hcoherent, by omega, by omega, fun hresets hup => ?_, fun hdown deed => ?_⟩
  · have hawaited : h.channel.state.awaited = if h.channel.state = .waitResponse then 1 else 0 := by
      cases h.channel.state <;> rfl
    have hnone : h.channel.state.lost = 0 := by
      cases hstate : h.channel.state <;> first | rfl | exact absurd hstate hup
    omega
  · cases deed with
    | act act =>
      obtain ⟨hstate, hevents, haccepted⟩ := step_of_disconnected hdown act
      exact ⟨iff_of_false (not_not_intro hstate) nofun, fun _ => ⟨hevents, haccepted⟩⟩
    | reset link seed => exact ⟨iff_of_true nofun rfl, nofun⟩

/-- A request, and the reply that it succeeded. -/
def logOff : Message := .request "log-local" ["off"]

def logOffOk : Message := ⟨.reply, ["log-local", "ok"]⟩

/-- Two links to one peer, for one connection after the other. -/
def twoLinks : ScriptedNetwork := ⟨[.new "peer" none, .new "peer" none]⟩

/-- A channel is lost while its request waits for the reply, and asks again over another link. -/
def lostAndReset : List (ChannelDeed ScriptedNetwork) :=
  let happens (event : LinkEvent) : ChannelDeed ScriptedNetwork :=
    .act (.remote fun net => net.modify 1 fun link => link.happen event)
  [.act .write, .act .disconnect, .reset ⟨1, "peer"⟩ [logOff], happens .connected, .act .read,
    .act .write, happens (.line logOffOk), .act .read]

/-- The request that was given up is counted as sent, and its repetition as sent and answered. -/
theorem coherent_and_accounted_lostAndReset :
    let c := Channel.connected .control ⟨0, "peer"⟩ [logOff] 0
    let h := live ⟨c, .fresh twoLinks, []⟩ lostAndReset
    c.IsNew ∧ h.channel.state = .monitor ∧ h.channel.stats = ⟨2, 1, 0, 0, 0⟩ ∧
      h.channel.Coherent ∧ h.channel.stats.sent ≤ 1 + 0 + 1 + 1 := by
  intro c h
  have hnew : c.IsNew := ⟨_, _, _, _, .inr rfl⟩
  have hstats : h.channel.stats = ⟨2, 1, 0, 0, 0⟩ := by decide +kernel
  have hlaw := coherent_and_accounted hnew (.fresh twoLinks) lostAndReset
  exact ⟨hnew, by decide +kernel, hstats, hlaw.1, hlaw.2.2.1⟩

end ChannelHistory

end ArrayWatch
