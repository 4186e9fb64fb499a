import ArrayWatch.Link.Basic

/-!
# Scripted links

A network without connections: what the remote side does is written into it. A link keeps the
messages that it accepted, and the events that have not been taken yet.
-/

namespace ArrayWatch

/-- A link whose remote side is played by a script. -/
structure ScriptedLink where
  peer : String
  address : Option (String × UInt16)
  sent : List Message
  pending : List LinkEvent
  blocked : Bool
  broken : Bool
  unflushed : Bool
  deriving DecidableEq, Repr, Inhabited

namespace ScriptedLink

def new (peer : String) (address : Option (String × UInt16)) : ScriptedLink :=
  ⟨peer, address, [], [], false, false, false⟩

/-! ## The remote side -/

/-- Something happens on the connection. -/
def happen (l : ScriptedLink) (event : LinkEvent) : ScriptedLink :=
  { l with pending := l.pending ++ [event] }

/-- The connection is closed. Later messages are refused. -/
def close (l : ScriptedLink) (reason : String) : ScriptedLink :=
  { l.happen (.closed reason) with broken := true }

/-! ## The owner's side -/

def send (l : ScriptedLink) (m : Message) : SendAnswer × ScriptedLink :=
  if l.broken then (.failed (.disconnected l.peer), l)
  else if l.blocked then (.wouldBlock, l)
  else (.accepted, { l with sent := l.sent ++ [m] })

def drain (l : ScriptedLink) : List LinkEvent × ScriptedLink :=
  (l.pending, { l with pending := [] })

end ScriptedLink

/-- Scripted links, in the order in which they were opened. -/
structure ScriptedNetwork where
  links : List ScriptedLink
  deriving Repr, Inhabited

namespace ScriptedNetwork

def empty : ScriptedNetwork := ⟨[]⟩

/-- Adds a link. -/
def add (n : ScriptedNetwork) (l : ScriptedLink) : Link × ScriptedNetwork :=
  (⟨n.links.length, l.peer⟩, ⟨n.links ++ [l]⟩)

/-- A link that was opened. -/
def link? (n : ScriptedNetwork) (id : Nat) : Option ScriptedLink :=
  n.links[id]?

/-- Changes a link. -/
def modify (n : ScriptedNetwork) (id : Nat) (f : ScriptedLink → ScriptedLink) : ScriptedNetwork :=
  ⟨n.links.modify id f⟩

/-- The links that were opened to a port of a host, by their numbers. -/
def opened (n : ScriptedNetwork) (host : String) (port : UInt16) : List Nat :=
  n.links.zipIdx.filterMap fun (l, id) => if l.address = some (host, port) then some id else none

/-- Every port of a host that a link was opened to, and how often, in order. -/
def openCounts (n : ScriptedNetwork) : List (String × UInt16 × Nat) :=
  let addresses := (n.links.filterMap ScriptedLink.address).eraseDups
  let sorted := addresses.mergeSort fun a b => a.1 < b.1 || (a.1 == b.1 && a.2 ≤ b.2)
  sorted.map fun (host, port) => (host, port, (n.opened host port).length)

instance : Network ScriptedNetwork where
  openLink host port n := n.add (.new (peerText host port) (some (host, port)))
  send link m n :=
    match n.link? link.id with
    | some l =>
      let (answer, l) := l.send m
      (answer, n.modify link.id fun _ => l)
    | none => (.failed (.disconnected link.peer), n)
  drain link n :=
    match n.link? link.id with
    | some l => (l.drain.1, n.modify link.id fun l => l.drain.2)
    | none => ([], n)
  hasUnflushed link n := ((n.link? link.id).map ScriptedLink.unflushed).getD false

end ScriptedNetwork

end ArrayWatch
