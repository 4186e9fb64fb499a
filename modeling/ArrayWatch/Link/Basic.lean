import ArrayWatch.Wire.Error
import ArrayWatch.Wire.Message

/-!
# Links

A link carries messages to one peer and back. The links of a monitor are opened in a network, which
is a value like any other: what a step does to it is part of the step's result. Nothing is assumed
of a network, so that a statement about every network is one about every behaviour of the remote
sides.
-/

namespace ArrayWatch

/-- What a link tells about its connection. -/
inductive LinkEvent where
  | connected
  | line (message : Message)
  /-- The connection failed or was closed. -/
  | closed (reason : String)
  deriving DecidableEq, Repr

/-- What a link answers to a message that is handed over. -/
inductive SendAnswer where
  | accepted
  | wouldBlock
  | failed (error : WireError)
  deriving DecidableEq, Repr

/-- A link that was opened: its number, and the peer's name for people to read. -/
structure Link where
  id : Nat
  peer : String
  deriving DecidableEq, Repr, Inhabited

/-- The operations on the links of a network. -/
class Network (ν : Type) where
  /-- Starts to connect to a port of a host. -/
  openLink : String → UInt16 → ν → Link × ν
  /-- Hands a message over, without waiting. -/
  send : Link → Message → ν → SendAnswer × ν
  /-- Takes everything that happened since the last time. -/
  drain : Link → ν → List LinkEvent × ν
  /-- Whether messages that were accepted have not been written yet. -/
  hasUnflushed : Link → ν → Bool

/-- The peer of a port of a host. -/
def peerText (host : String) (port : UInt16) : String :=
  host ++ ":" ++ toString port

end ArrayWatch
