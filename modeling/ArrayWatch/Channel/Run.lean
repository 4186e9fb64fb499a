import ArrayWatch.Channel.Basic
import ArrayWatch.World

/-!
# Channels on their links

A channel together with the network that its link is open in: reading, writing, and handing requests
over until the link takes no more.

* `Channel.write_ok_true`: a request that is accepted leaves the channel waiting for the reply, so
  that handing over comes to an end.
-/

namespace ArrayWatch

namespace Channel

variable {ν : Type} [Network ν]

/-- Whether the channel takes events from its link. -/
def wantsRead (c : Channel) : Bool := !c.isDisconnected

/-- Whether the link is to be written to. -/
def wantsWrite (c : Channel) (net : ν) : Bool :=
  match c.state with
  | .disconnected => false
  | .waitConnect => true
  | .sendFrontOfQueue => c.current.isSome || Network.hasUnflushed c.link net
  | .waitResponse | .monitor => Network.hasUnflushed c.link net

/-- Takes everything that the link received. -/
def read (c : Channel) (net : ν) : Channel × List ChannelEvent × ν :=
  if c.isDisconnected then (c, [], net)
  else
    let (events, net) := Network.drain c.link net
    let (c, out) := c.receive events
    (c, out, net)

/-- Tries to hand the request in flight to the link. -/
def write (c : Channel) (net : ν) : Except WireError Bool × Channel × ν :=
  match c.outgoing? with
  | none => (.ok false, c, net)
  | some m =>
    if m.words.isEmpty then (.error .emptyMessage, c, net)
    else
      let (answer, net) := Network.send c.link m net
      let (result, c) := c.answered answer
      (result, c, net)

theorem write_ok_true {c : Channel} {net : ν} (h : (c.write net).1 = .ok true) :
    c.state = .sendFrontOfQueue ∧ (c.write net).2.1.state = .waitResponse := by
  unfold write at h ⊢
  cases hout : c.outgoing? with
  | none => simp [hout] at h
  | some m =>
    have hstate : c.state = .sendFrontOfQueue := by
      unfold outgoing? at hout
      split at hout
      · assumption
      · contradiction
    by_cases hm : m.words.isEmpty = true
    · simp [hout, hm] at h
    · simp only [hout, hm, Bool.false_eq_true, if_false] at h ⊢
      cases ha : (Network.send c.link m net).1 <;> simp_all [answered]

/-- Hands requests to the link until it takes no more, and says how many it took. -/
def flushCounted (c : Channel) (net : ν) : Nat × Channel × ν :=
  if c.wantsWrite net then
    match _h : c.write net with
    | (.ok true, c', net') =>
      let (sent, c'', net'') := flushCounted c' net'
      (sent + 1, c'', net'')
    | (_, c', net') => (0, c', net')
  else (0, c, net)
termination_by if c.state = .sendFrontOfQueue then 1 else 0
decreasing_by
  have hw : (c.write net).1 = .ok true := by rw [_h]
  obtain ⟨h1, h2⟩ := write_ok_true hw
  rw [_h] at h2
  simp_all

/-- Hands requests to the link, and counts them. -/
def flush (c : Channel) (w : World ν) : Channel × World ν :=
  let (sent, c', net) := c.flushCounted w.net
  (c', { net, metrics := w.metrics.requestsSentBy c.role.word sent })

end Channel

namespace Metrics

/-- Counts a reply that does not say ok, under the name of the request. -/
def recordReply (m : Metrics) (request reply : Message) : Metrics :=
  if reply.isOkReply then m else m.requestFailed (request.name?.getD "unknown")

end Metrics

end ArrayWatch
