import ArrayWatch.Link.Basic
import ArrayWatch.Wire.Line

/-!
# Channels

A channel is one connection with the requests that are to be sent over it. At most one request is in
flight: the next one is sent after the reply to it has come.

* `Channel.receive` is what a batch of events from the link does to a channel.
* `Channel.outgoing?` is the request to be handed to the link, and `Channel.answered` is what the
  answer of the link does to the channel.
-/

namespace ArrayWatch

/-- What a channel is doing. -/
inductive ChannelState where
  | waitConnect | sendFrontOfQueue | waitResponse | monitor | disconnected
  deriving DecidableEq, Repr, Inhabited

namespace ChannelState

def all : List ChannelState :=
  [waitConnect, sendFrontOfQueue, waitResponse, monitor, disconnected]

def word : ChannelState → String
  | waitConnect => "wait_connect"
  | sendFrontOfQueue => "send_front_of_queue"
  | waitResponse => "wait_response"
  | monitor => "monitor"
  | disconnected => "disconnected"

def describe : ChannelState → String
  | waitConnect => "WaitConnect"
  | sendFrontOfQueue => "SendFrontOfQueue"
  | waitResponse => "WaitResponse"
  | monitor => "Monitor"
  | disconnected => "Disconnected"

end ChannelState

/-- Which connection a channel serves. -/
inductive ChannelRole where
  | cmc | control | monitor
  deriving DecidableEq, Repr, Inhabited

namespace ChannelRole

def all : List ChannelRole := [cmc, control, monitor]

def word : ChannelRole → String
  | cmc => "cmc"
  | control => "control"
  | monitor => "monitor"

def describe : ChannelRole → String
  | cmc => "Cmc"
  | control => "Control"
  | monitor => "Monitor"

end ChannelRole

/-- What a channel has counted since it was made. -/
structure ChannelStats where
  sent : Nat
  repliesOk : Nat
  repliesFailed : Nat
  informs : Nat
  unexpected : Nat
  deriving DecidableEq, Repr, Inhabited

namespace ChannelStats

def zero : ChannelStats := ⟨0, 0, 0, 0, 0⟩

def toValue (s : ChannelStats) : Value :=
  .table [("sent", .nat s.sent), ("replies_ok", .nat s.repliesOk),
    ("replies_failed", .nat s.repliesFailed), ("informs", .nat s.informs),
    ("unexpected", .nat s.unexpected)]

end ChannelStats

/-- Something that the owner of a channel has to act on. -/
inductive ChannelEvent where
  | inform (message : Message)
  /-- A reply to the request that was in flight, whatever it says. -/
  | reply (request reply : Message)
  deriving DecidableEq, Repr

/-- Requests in the order in which they are to be sent. -/
structure MessageQueue where
  messages : List Message
  deriving DecidableEq, Repr, Inhabited

namespace MessageQueue

def empty : MessageQueue := ⟨[]⟩

def ofList (messages : List Message) : MessageQueue := ⟨messages⟩

def push (q : MessageQueue) (m : Message) : MessageQueue := ⟨q.messages ++ [m]⟩

def front? (q : MessageQueue) : Option Message := q.messages.head?

/-- Takes the first request out. -/
def pop (q : MessageQueue) : Option Message × MessageQueue := (q.messages.head?, ⟨q.messages.tail⟩)

def size (q : MessageQueue) : Nat := q.messages.length

def isEmpty (q : MessageQueue) : Bool := q.messages.isEmpty

end MessageQueue

/-- One connection, with its queue and the request in flight. -/
structure Channel where
  role : ChannelRole
  state : ChannelState
  link : Link
  queue : MessageQueue
  current : Option Message
  /-- How often the request in flight has failed. -/
  failures : UInt32
  /-- How many failures of a request are answered by sending it again; zero stands for all. -/
  maxRetries : UInt32
  stats : ChannelStats
  /-- Whether the link has connected since it was opened. -/
  hasConnected : Bool
  deriving DecidableEq, Repr, Inhabited

namespace Channel

/-! ## Making and resetting -/

/-- Takes the next request in flight. The channel is idle where there is none. -/
def advance (c : Channel) : Channel :=
  let (next, rest) := c.queue.pop
  { c with
    failures := 0
    current := next
    queue := rest
    state := if next.isSome then .sendFrontOfQueue else .monitor }

/-- A channel that waits until its link has connected. -/
def connecting (role : ChannelRole) (link : Link) (seed : List Message) (maxRetries : UInt32) :
    Channel :=
  ⟨role, .waitConnect, link, .ofList seed, none, 0, maxRetries, .zero, false⟩

/-- A channel that may send at once. -/
def connected (role : ChannelRole) (link : Link) (seed : List Message) (maxRetries : UInt32) :
    Channel :=
  (connecting role link seed maxRetries).advance

/-- Starts over with another link. Requests that were waiting or in flight are dropped. -/
def reset (c : Channel) (link : Link) (seed : List Message) : Channel :=
  { c with
    state := .waitConnect
    link := link
    queue := .ofList seed
    current := none
    failures := 0
    hasConnected := false }

def isDisconnected (c : Channel) : Bool :=
  c.state == .disconnected

/-- Takes no further part in anything until it is reset. -/
def disconnect (c : Channel) : Channel :=
  { c with state := .disconnected }

/-- Takes a request to be sent. An idle channel takes it in flight at once. -/
def push (c : Channel) (m : Message) : Channel :=
  if c.state = .monitor ∧ c.current = none then
    { c with current := some m, state := .sendFrontOfQueue }
  else { c with queue := c.queue.push m }

/-! ## Receiving -/

def countUnexpected (c : Channel) : Channel :=
  { c with stats.unexpected := c.stats.unexpected + 1 }

/-- The request that a reply answers: the one in flight, if it waits for a reply of this name. -/
def answeredBy? (c : Channel) (reply : Message) : Option Message :=
  if c.state = .waitResponse then c.current.filter fun request => request.name? == reply.name?
  else none

/-- The request in flight succeeded. -/
def succeed (c : Channel) : Channel :=
  { c with stats.repliesOk := c.stats.repliesOk + 1 }.advance

/-- The request in flight failed: it is sent again, or dropped after too many failures. -/
def fail (c : Channel) : Channel :=
  let failures := c.failures + 1
  let c := { c with stats.repliesFailed := c.stats.repliesFailed + 1, failures := failures }
  if 0 < c.maxRetries ∧ c.maxRetries < failures then c.advance
  else { c with state := .sendFrontOfQueue }

/-- What a reply does. -/
def receiveReply (c : Channel) (reply : Message) : Channel × List ChannelEvent :=
  match c.answeredBy? reply with
  | none => (c.countUnexpected, [])
  | some request => (if reply.isOkReply then c.succeed else c.fail, [.reply request reply])

/-- What a message from the peer does. -/
def receiveMessage (c : Channel) (m : Message) : Channel × List ChannelEvent :=
  match m.kind with
  | .inform => ({ c with stats.informs := c.stats.informs + 1 }, [.inform m])
  | .reply => c.receiveReply m
  | .request => (c.countUnexpected, [])

/-- What the completed connection does. -/
def receiveConnected (c : Channel) : Channel :=
  let c := { c with hasConnected := true }
  if c.state = .waitConnect then c.advance else c

/-- What a batch of events does. Nothing counts after the connection is closed. -/
def receive (c : Channel) : List LinkEvent → Channel × List ChannelEvent
  | [] => (c, [])
  | .connected :: events => c.receiveConnected.receive events
  | .line m :: events =>
    let (c, first) := c.receiveMessage m
    let (c, others) := c.receive events
    (c, first ++ others)
  | .closed _ :: _ => (c.disconnect, [])

/-! ## Sending -/

/-- The request that is to be handed to the link. -/
def outgoing? (c : Channel) : Option Message :=
  if c.state = .sendFrontOfQueue then c.current else none

/-- What the answer of the link to the request in flight does, and whether it was accepted. -/
def answered (c : Channel) : SendAnswer → Except WireError Bool × Channel
  | .accepted =>
    (.ok true, { c with stats.sent := c.stats.sent + 1, state := .waitResponse })
  | .wouldBlock => (.ok false, c)
  | .failed error => (.error error, c.disconnect)

/-! ## Descriptions -/

def describe (c : Channel) : String :=
  Text.describeRecord "Channel"
    [("role", c.role.describe), ("state", c.state.describe), ("peer", Text.quoted c.link.peer),
      ("current", Text.describeOption (c.current.map Message.describe)),
      ("queued", toString c.queue.size)]

end Channel

end ArrayWatch
