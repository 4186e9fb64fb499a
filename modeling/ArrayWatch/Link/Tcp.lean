import ArrayWatch.Link.Basic

/-!
# TCP links

A link over a TCP connection has two sides that take turns in any order: its owner, who hands
messages over and takes events, and the task of the connection, which connects, reads and writes.
Between them stand a queue of bounded length for messages, a queue for events, and the number of
messages that were handed over and not written yet.

* `TcpLink.step?` is one step of either side, where it can be taken.
* `TcpLink.step?_trySend`: handing a message over is counting it, putting it into the queue, and
  taking the count back where that fails.
* `TcpLink.steps?_drain`: taking every event is taking one after the other.
-/

namespace ArrayWatch

/-- Why an operation on a socket failed. -/
inductive SocketError where
  | refused | unreachable | reset
  deriving DecidableEq, Repr

def SocketError.message : SocketError → String
  | refused => "Connection refused (os error 111)"
  | unreachable => "Network is unreachable (os error 101)"
  | reset => "Connection reset by peer (os error 104)"

/-- Why the task of a connection stopped, as far as its owner is told. -/
inductive StopReason where
  | connectFailed (cause : SocketError)
  | closedByPeer
  | readFailed (cause : WireError)
  | writeFailed (cause : WireError)
  deriving DecidableEq, Repr

def StopReason.message : StopReason → String
  | connectFailed cause => "connect failed: " ++ cause.message
  | closedByPeer => "closed by peer"
  | readFailed cause => "read failed: " ++ cause.message
  | writeFailed cause => "write failed: " ++ cause.message

/-- What the task of a connection is doing. -/
inductive TcpTask where
  | connecting
  /-- Waiting for something to read or to write. -/
  | ready
  | writing (message : Message)
  /-- A write has failed, and the owner has not been told yet. -/
  | failing (cause : WireError)
  /-- The owner has been told why the task stops, but the queue is still there. -/
  | closing
  | stopped
  deriving DecidableEq, Repr, Inhabited

/-- Whether this is a reason for the task to stop. -/
def TcpTask.stopsFor : TcpTask → StopReason → Bool
  | connecting, .connectFailed _ => true
  | ready, .closedByPeer | ready, .readFailed _ => true
  | failing cause, .writeFailed told => cause == told
  | _, _ => false

/-- How far the owner is with handing a message over. -/
inductive SendPhase where
  | idle
  | counted (message : Message)
  /-- The queue did not take the message, which is still counted. -/
  | refused (answer : SendAnswer)
  deriving DecidableEq, Repr, Inhabited

/-- A link over a TCP connection. -/
structure TcpLink where
  peer : String
  task : TcpTask
  phase : SendPhase
  /-- Messages that the task has not taken yet. -/
  outbound : List Message
  /-- Events that the owner has not taken yet. -/
  inbound : List LinkEvent
  unflushed : Nat
  /-- Whether the owner has given the link up. -/
  dropped : Bool
  deriving DecidableEq, Repr, Inhabited

/-- A step of the owner or of the task. -/
inductive TcpStep where
  | count (message : Message)
  | enqueue
  | rollBack
  /-- The owner takes one event. -/
  | pull
  | drop
  | connected
  | received (message : Message)
  /-- The task takes a message to write. -/
  | take
  | written
  | writeFailed (cause : WireError)
  /-- The task tells the owner why it stops. -/
  | stop (reason : StopReason)
  /-- The task returns. -/
  | finish
  /-- The task finds that the owner has given the link up, and returns. -/
  | cancel
  deriving DecidableEq, Repr

namespace TcpLink

/-- The greatest number of messages in the queue. -/
def capacity : Nat := 64

/-- A link that is being connected. -/
def connecting (peer : String) : TcpLink :=
  ⟨peer, .connecting, .idle, [], [], 0, false⟩

/-! ## The owner -/

def hasUnflushed (l : TcpLink) : Bool := 0 < l.unflushed

/-- Counts a message that is about to be handed over. -/
def count (l : TcpLink) (m : Message) : TcpLink :=
  { l with phase := .counted m, unflushed := l.unflushed + 1 }

/-- What the queue answers to a message. -/
def queueAnswer (l : TcpLink) : SendAnswer :=
  if l.task = .stopped then .failed (.disconnected (l.peer ++ ": connection task stopped"))
  else if l.outbound.length < capacity then .accepted
  else .wouldBlock

/-- Puts a message that was counted into the queue, if the queue takes it. -/
def enqueue (l : TcpLink) (m : Message) : SendAnswer × TcpLink :=
  match l.queueAnswer with
  | .accepted => (.accepted, { l with phase := .idle, outbound := l.outbound ++ [m] })
  | answer => (answer, { l with phase := .refused answer })

/-- Takes the count of a message back. -/
def rollBack (l : TcpLink) : TcpLink :=
  { l with phase := .idle, unflushed := l.unflushed - 1 }

/-- Hands a message over, without waiting. -/
def trySend (l : TcpLink) (m : Message) : SendAnswer × TcpLink :=
  match (l.count m).enqueue m with
  | (.accepted, l) => (.accepted, l)
  | (answer, l) => (answer, l.rollBack)

/-- Takes every event. -/
def drain (l : TcpLink) : List LinkEvent × TcpLink :=
  (l.inbound, { l with inbound := [] })

/-! ## The task -/

/-- Tells the owner something. -/
def emit (l : TcpLink) (event : LinkEvent) : TcpLink :=
  { l with inbound := l.inbound ++ [event] }

/-- The message that was being written is no longer counted, whether it was written or not. -/
def finishWrite (l : TcpLink) : TcpLink :=
  { l with unflushed := l.unflushed - 1 }

/-- Tells the owner why the task stops. -/
def stop (l : TcpLink) (reason : StopReason) : TcpLink :=
  { l.emit (.closed reason.message) with task := .closing }

/-- Returns. Messages in the queue are lost, but stay counted. -/
def finish (l : TcpLink) : TcpLink :=
  { l with task := .stopped, outbound := [] }

/-! ## Steps -/

/-- One step, where it can be taken. The end of a write, complete or not, is one step with the end
of its count. When a write has failed, the task still has to tell the owner and to return. -/
def step? (l : TcpLink) : TcpStep → Option TcpLink
  | .count m => if l.phase = .idle ∧ l.dropped = false then some (l.count m) else none
  | .enqueue =>
    match l.phase with
    | .counted m => some (l.enqueue m).2
    | _ => none
  | .rollBack =>
    match l.phase with
    | .refused _ => some l.rollBack
    | _ => none
  | .pull =>
    match l.inbound with
    | _ :: rest =>
      if l.phase = .idle ∧ l.dropped = false then some { l with inbound := rest } else none
    | [] => none
  | .drop =>
    if l.phase = .idle ∧ l.dropped = false then some { l with dropped := true } else none
  | .connected =>
    if l.task = .connecting then some { l.emit .connected with task := .ready } else none
  | .received m => if l.task = .ready then some (l.emit (.line m)) else none
  | .take =>
    match l.task, l.outbound with
    | .ready, m :: rest => some { l with task := .writing m, outbound := rest }
    | _, _ => none
  | .written =>
    match l.task with
    | .writing _ => some { l.finishWrite with task := .ready }
    | _ => none
  | .writeFailed cause =>
    match l.task with
    | .writing _ => some { l.finishWrite with task := .failing cause }
    | _ => none
  | .stop reason => if l.task.stopsFor reason then some (l.stop reason) else none
  | .finish => if l.task = .closing then some l.finish else none
  | .cancel =>
    if l.dropped ∧ (l.task = .connecting ∨ l.task = .ready) then some l.finish else none

/-- Steps one after the other, where all of them can be taken. -/
def steps? (l : TcpLink) (steps : List TcpStep) : Option TcpLink :=
  steps.foldlM step? l

theorem step?_trySend {l : TcpLink} {m : Message} (hphase : l.phase = .idle)
    (howner : l.dropped = false) :
    (l.steps? [.count m, .enqueue] = some (l.trySend m).2 ∧ (l.trySend m).1 = .accepted) ∨
      l.steps? [.count m, .enqueue, .rollBack] = some (l.trySend m).2 := by
  have hcount : l.step? (.count m) = some (l.count m) := by simp [step?, hphase, howner]
  have henqueue : (l.count m).step? .enqueue = some ((l.count m).enqueue m).2 := by
    simp [step?, count]
  cases ha : (l.count m).queueAnswer with
  | accepted =>
    refine .inl ?_
    have htry : l.trySend m = (l.count m).enqueue m := by simp [trySend, enqueue, ha]
    rw [htry]
    simp only [steps?, List.foldlM_cons, hcount, Option.bind_eq_bind, Option.bind_some, henqueue]
    simp [enqueue, ha]
  | _ =>
    refine .inr ?_
    have htry : (l.trySend m).2 = ((l.count m).enqueue m).2.rollBack := by
      simp [trySend, enqueue, ha]
    have hback : ((l.count m).enqueue m).2.step? .rollBack =
        some ((l.count m).enqueue m).2.rollBack := by
      simp [enqueue, ha, step?]
    rw [htry]
    simp only [steps?, List.foldlM_cons, hcount, Option.bind_eq_bind, Option.bind_some, henqueue,
      hback]
    rfl

theorem steps?_drain {l : TcpLink} (hphase : l.phase = .idle) (howner : l.dropped = false) :
    l.steps? (List.replicate l.drain.1.length .pull) = some l.drain.2 := by
  show l.steps? (List.replicate l.inbound.length .pull) = some { l with inbound := [] }
  generalize hevents : l.inbound = events
  induction events generalizing l with
  | nil =>
    show some l = some { l with inbound := [] }
    rw [← hevents]
  | cons event rest ih =>
    have hpull : l.step? .pull = some { l with inbound := rest } := by
      simp [step?, hevents, hphase, howner]
    rw [List.length_cons, List.replicate_succ, steps?, List.foldlM_cons, hpull]
    exact ih (l := { l with inbound := rest }) hphase howner rfl

end TcpLink

/-! ## Networks -/

/-- TCP links, in the order in which they were opened. -/
structure TcpNetwork where
  links : List TcpLink
  deriving Repr, Inhabited

namespace TcpNetwork

def empty : TcpNetwork := ⟨[]⟩

def link? (n : TcpNetwork) (id : Nat) : Option TcpLink := n.links[id]?

/-- Every attempt to connect that is going on fails. -/
def failConnecting (n : TcpNetwork) (cause : SocketError) : TcpNetwork :=
  ⟨n.links.map fun l => (l.steps? [.stop (.connectFailed cause), .finish]).getD l⟩

instance : Network TcpNetwork where
  openLink host port n :=
    let peer := peerText host port
    (⟨n.links.length, peer⟩, ⟨n.links ++ [.connecting peer]⟩)
  send link m n :=
    match n.link? link.id with
    | some l =>
      let (answer, l) := l.trySend m
      (answer, ⟨n.links.set link.id l⟩)
    | none => (.failed (.disconnected link.peer), n)
  drain link n :=
    match n.link? link.id with
    | some l => (l.drain.1, ⟨n.links.set link.id l.drain.2⟩)
    | none => ([], n)
  hasUnflushed link n := ((n.link? link.id).map TcpLink.hasUnflushed).getD false

end TcpNetwork

end ArrayWatch
