import ArrayWatch.Link.Basic

/-!
# Recorded networks

A network together with a record of what its owner asked of it: the ports that links were opened
to, the messages that were accepted, and the traffic, which is what was accepted and what the owner
took in the order in which both happened, each with its link. A record can be kept of every network,
and what a channel does over a recorded network is in the record whatever the channel says of
itself.
-/

namespace ArrayWatch

/-- What passes between a link and its owner. -/
inductive Traffic where
  | accepted (m : Message)
  /-- The owner took everything that the link had for it. -/
  | taken (batch : List LinkEvent)
  deriving DecidableEq, Repr

/-- A network and the record of its use. -/
structure Recorded (ν : Type) where
  net : ν
  opened : List (String × UInt16)
  accepted : List (Link × Message)
  traffic : List (Link × Traffic)

namespace Recorded

variable {ν : Type}

/-- A network that has not been used yet. -/
def fresh (net : ν) : Recorded ν := ⟨net, [], [], []⟩

/-- The remote sides act. The record is about the owner, so it stays. -/
def act (r : Recorded ν) (move : ν → ν) : Recorded ν := { r with net := move r.net }

variable [Network ν]

instance : Network (Recorded ν) where
  openLink host port r :=
    let (link, net) := Network.openLink host port r.net
    (link, { r with net, opened := r.opened ++ [(host, port)] })
  send link m r :=
    let (answer, net) := Network.send link m r.net
    (answer,
      { r with
        net
        accepted := r.accepted ++ if answer = .accepted then [(link, m)] else []
        traffic := r.traffic ++ if answer = .accepted then [(link, .accepted m)] else [] })
  drain link r :=
    let (batch, net) := Network.drain link r.net
    (batch, { r with net, traffic := r.traffic ++ [(link, .taken batch)] })
  hasUnflushed link r := Network.hasUnflushed link r.net

/-! ## What each operation leaves in the record -/

@[simp] theorem opened_openLink (host : String) (port : UInt16) (r : Recorded ν) :
    (Network.openLink host port r).2.opened = r.opened ++ [(host, port)] := rfl

@[simp] theorem opened_send (link : Link) (m : Message) (r : Recorded ν) :
    (Network.send link m r).2.opened = r.opened := rfl

theorem accepted_send (link : Link) (m : Message) (r : Recorded ν) :
    (Network.send link m r).2.accepted =
      r.accepted ++ if (Network.send link m r).1 = .accepted then [(link, m)] else [] := rfl

theorem traffic_send (link : Link) (m : Message) (r : Recorded ν) :
    (Network.send link m r).2.traffic =
      r.traffic ++ if (Network.send link m r).1 = .accepted then [(link, .accepted m)] else [] := rfl

@[simp] theorem opened_drain (link : Link) (r : Recorded ν) :
    (Network.drain link r).2.opened = r.opened := rfl

@[simp] theorem accepted_drain (link : Link) (r : Recorded ν) :
    (Network.drain link r).2.accepted = r.accepted := rfl

theorem traffic_drain (link : Link) (r : Recorded ν) :
    (Network.drain link r).2.traffic =
      r.traffic ++ [(link, .taken (Network.drain link r).1)] := rfl

end Recorded

end ArrayWatch
