import ArrayWatch.Link.Tcp
import Mathlib.Algebra.Ring.Int.Defs

/-!
# The two sides of a TCP link

The owner of a TCP link and the task of its connection run side by side, and their steps come in any
order. Whatever connecting, reading and writing come to, the owner is told a consistent story, the
messages are written in the order in which they were accepted, and the count that both sides change
without waiting for each other is right whenever no message is just being handed over. It counts the
messages whose write has not ended. One whose write failed is not counted any more, though it was
not written.

* `TcpLink.Takes` says what each step does, and `TcpLink.takes_of_step?` that these are all steps.
* `TcpLink.Counted`: what the count consists of. `TcpLink.Counted.takes` is its step.
* `TcpHistory` is a link with what came of it so far: the messages that were accepted, written,
  given up and received, and the events that the owner took.
* `TcpHistory.Told`, `TcpHistory.Carried`: the story, and where the messages are. Their steps are
  `TcpHistory.Told.takes` and `TcpHistory.Carried.takes`.
* `TcpHistory.transport_protocol`: the law for every run. `TcpHistory.not_unwritten_counted`: it
  does not hold of the messages that were not written.
-/

namespace ArrayWatch

/-! ## Steps of either side -/

namespace TcpLink

/-- What a step does, and when it can be taken. -/
inductive Takes (l : TcpLink) : TcpStep → TcpLink → Prop
  | count (m : Message) (hphase : l.phase = .idle) : Takes l (.count m) (l.count m)
  | accept {m : Message} (hphase : l.phase = .counted m) (hanswer : l.queueAnswer = .accepted) :
    Takes l .enqueue { l with phase := .idle, outbound := l.outbound ++ [m] }
  | refuse {m : Message} (hphase : l.phase = .counted m) (hanswer : l.queueAnswer ≠ .accepted) :
    Takes l .enqueue { l with phase := .refused l.queueAnswer }
  | rollBack {answer : SendAnswer} (hphase : l.phase = .refused answer) :
    Takes l .rollBack l.rollBack
  | pull {event : LinkEvent} {rest : List LinkEvent} (hinbound : l.inbound = event :: rest) :
    Takes l .pull { l with inbound := rest }
  | drop : Takes l .drop { l with dropped := true }
  | connected (htask : l.task = .connecting) :
    Takes l .connected { l.emit .connected with task := .ready }
  | received (m : Message) (htask : l.task = .ready) : Takes l (.received m) (l.emit (.line m))
  | take {m : Message} {rest : List Message} (htask : l.task = .ready)
    (houtbound : l.outbound = m :: rest) :
    Takes l .take { l with task := .writing m, outbound := rest }
  | written {m : Message} (htask : l.task = .writing m) :
    Takes l .written { l.finishWrite with task := .ready }
  | writeFailed {m : Message} (cause : WireError) (htask : l.task = .writing m) :
    Takes l (.writeFailed cause) { l.finishWrite with task := .failing cause }
  | stop (reason : StopReason) (hstops : l.task.stopsFor reason) :
    Takes l (.stop reason) (l.stop reason)
  | finish (htask : l.task = .closing) : Takes l .finish l.finish
  | cancel (htask : l.task = .connecting ∨ l.task = .ready) : Takes l .cancel l.finish

variable {l l' : TcpLink} {s : TcpStep}

theorem enqueue_snd (l : TcpLink) (m : Message) : (l.enqueue m).2 =
    if l.queueAnswer = .accepted then { l with phase := .idle, outbound := l.outbound ++ [m] }
    else { l with phase := .refused l.queueAnswer } := by
  unfold enqueue
  split
  · rename_i hanswer
    rw [if_pos hanswer]
  · rename_i hanswer
    rw [if_neg hanswer]

theorem takes_of_step? (h : l.step? s = some l') : l.Takes s l' := by
  cases s with
  | count m =>
    obtain ⟨⟨hphase, -⟩, ⟨⟩⟩ := Option.ite_none_right_eq_some.1 h
    exact .count m hphase
  | enqueue =>
    simp only [step?] at h
    split at h
    · rename_i m hphase
      rw [enqueue_snd] at h
      split at h
      · rename_i hanswer
        cases h
        exact .accept hphase hanswer
      · rename_i hanswer
        cases h
        exact .refuse hphase hanswer
    · cases h
  | rollBack =>
    simp only [step?] at h
    split at h
    · rename_i answer hphase
      cases h
      exact .rollBack hphase
    · cases h
  | pull =>
    simp only [step?] at h
    split at h
    · rename_i event rest hinbound
      obtain ⟨-, ⟨⟩⟩ := Option.ite_none_right_eq_some.1 h
      exact .pull hinbound
    · cases h
  | drop =>
    obtain ⟨-, ⟨⟩⟩ := Option.ite_none_right_eq_some.1 h
    exact .drop
  | connected =>
    obtain ⟨htask, ⟨⟩⟩ := Option.ite_none_right_eq_some.1 h
    exact .connected htask
  | received m =>
    obtain ⟨htask, ⟨⟩⟩ := Option.ite_none_right_eq_some.1 h
    exact .received m htask
  | take =>
    simp only [step?] at h
    split at h
    · rename_i m rest htask houtbound
      cases h
      exact .take htask houtbound
    · cases h
  | written =>
    simp only [step?] at h
    split at h
    · rename_i m htask
      cases h
      exact .written htask
    · cases h
  | writeFailed cause =>
    simp only [step?] at h
    split at h
    · rename_i m htask
      cases h
      exact .writeFailed cause htask
    · cases h
  | stop reason =>
    obtain ⟨hstops, ⟨⟩⟩ := Option.ite_none_right_eq_some.1 h
    exact .stop reason hstops
  | finish =>
    obtain ⟨htask, ⟨⟩⟩ := Option.ite_none_right_eq_some.1 h
    exact .finish htask
  | cancel =>
    obtain ⟨⟨-, htask⟩, ⟨⟩⟩ := Option.ite_none_right_eq_some.1 h
    exact .cancel htask

theorem queueAnswer_eq_accepted (h : l.queueAnswer = .accepted) :
    l.task ≠ .stopped ∧ l.outbound.length < capacity := by
  unfold queueAnswer at h
  split at h
  · cases h
  · rename_i htask
    split at h
    · exact ⟨htask, ‹_›⟩
    · cases h

end TcpLink

/-! ## The count -/

/-- The message that is being written. -/
def TcpTask.inHand : TcpTask → List Message
  | writing m => [m]
  | _ => []

/-- Whether the task writes nothing any more. -/
def TcpTask.isOver : TcpTask → Bool
  | failing _ | closing | stopped => true
  | _ => false

theorem TcpTask.or_of_stopsFor {t : TcpTask} {reason : StopReason} (h : t.stopsFor reason) :
    t = .connecting ∨ t = .ready ∨ ∃ cause, t = .failing cause := by
  cases t with
  | connecting => exact .inl rfl
  | ready => exact .inr (.inl rfl)
  | failing cause => exact .inr (.inr ⟨cause, rfl⟩)
  | _ => nomatch h

theorem TcpTask.free_of_or {t : TcpTask}
    (h : t = .connecting ∨ t = .ready ∨ ∃ cause, t = .failing cause) :
    t ≠ .stopped ∧ t.inHand = [] := by
  rcases h with rfl | rfl | ⟨cause, rfl⟩
  · exact ⟨nofun, rfl⟩
  · exact ⟨nofun, rfl⟩
  · exact ⟨nofun, rfl⟩

/-- The number of messages that are counted and not in the queue yet. -/
def SendPhase.held : SendPhase → Nat
  | idle => 0
  | counted _ | refused _ => 1

/-- What a step adds to the count. -/
def TcpStep.change : TcpStep → Int
  | count _ => 1
  | rollBack | written | writeFailed _ => -1
  | _ => 0

namespace TcpLink

/-- What is counted is being handed over, in the queue, or being written. A task that returned
leaves what was in the queue counted. -/
def Counted (l : TcpLink) : Prop :=
  ∃ stale, l.outbound.length + stale ≤ capacity ∧ (l.task ≠ .stopped → stale = 0) ∧
    l.unflushed = l.phase.held + l.task.inHand.length + l.outbound.length + stale

variable {l l' : TcpLink} {s : TcpStep}

/-- Where the queue stays as it is, the count has to change as what is held and in hand does. -/
theorem Counted.of_outbound_eq (h : l.Counted) (hqueue : l'.outbound = l.outbound)
    (htask : l'.task ≠ .stopped → l.task ≠ .stopped)
    (hcount : l'.unflushed + (l.phase.held + l.task.inHand.length) =
      l.unflushed + (l'.phase.held + l'.task.inHand.length)) : l'.Counted := by
  obtain ⟨stale, hbounded, hzero, hbefore⟩ := h
  refine ⟨stale, by rwa [hqueue], fun hup => hzero (htask hup), ?_⟩
  rw [hqueue]
  omega

/-- A message whose write is to end, or whose handing over failed, is counted. -/
theorem Counted.pos (h : l.Counted) (hload : 0 < l.phase.held + l.task.inHand.length) :
    0 < l.unflushed := by
  obtain ⟨stale, -, -, hcount⟩ := h
  omega

/-- The end of a write, complete or not, takes one message out of hand and off the count. -/
theorem Counted.finishWrite {m : Message} (h : l.Counted) (htask : l.task = .writing m)
    {next : TcpTask} (hfree : next.inHand = []) :
    ({ l.finishWrite with task := next } : TcpLink).Counted ∧
      (l.finishWrite.unflushed : Int) = l.unflushed + -1 := by
  have hpos : 0 < l.unflushed := h.pos (by rw [htask]; exact Nat.succ_pos _)
  refine ⟨h.of_outbound_eq rfl (by simp [htask]) ?_, ?_⟩
  · rw [htask, hfree]
    show l.unflushed - 1 + (l.phase.held + 1) = l.unflushed + (l.phase.held + 0)
    omega
  · show ((l.unflushed - 1 : Nat) : Int) = l.unflushed + -1
    omega

theorem Counted.finish (h : l.Counted) (htask : l.task ≠ .stopped) (hhand : l.task.inHand = []) :
    l.finish.Counted := by
  obtain ⟨stale, hbounded, hzero, hcount⟩ := h
  rw [hzero htask] at hbounded hcount
  rw [hhand] at hcount
  refine ⟨l.outbound.length, by rwa [Nat.add_comm] at hbounded, nofun, ?_⟩
  show l.unflushed = l.phase.held + 0 + 0 + l.outbound.length
  exact hcount

/-- Each step keeps the count, and changes it by what it adds. Nothing is taken from a count of
zero. -/
theorem Counted.takes (h : l.Counted) (htakes : l.Takes s l') :
    l'.Counted ∧ (l'.unflushed : Int) = l.unflushed + s.change := by
  cases htakes with
  | count m hphase =>
    refine ⟨h.of_outbound_eq rfl id ?_, rfl⟩
    rw [hphase]
    show l.unflushed + 1 + (0 + l.task.inHand.length) = l.unflushed + (1 + l.task.inHand.length)
    omega
  | accept hphase hanswer =>
    obtain ⟨stale, -, hzero, hcount⟩ := h
    obtain ⟨hup, hroom⟩ := queueAnswer_eq_accepted hanswer
    refine ⟨⟨stale, ?_, hzero, ?_⟩, (Int.add_zero _).symm⟩
    · rw [List.length_append, hzero hup]
      exact hroom
    · rw [hcount, hphase, List.length_append]
      show 1 + l.task.inHand.length + l.outbound.length + stale =
        0 + l.task.inHand.length + (l.outbound.length + 1) + stale
      omega
  | refuse hphase hanswer =>
    refine ⟨h.of_outbound_eq rfl id ?_, (Int.add_zero _).symm⟩
    rw [hphase]
    rfl
  | rollBack hphase =>
    have hheld : 0 < l.phase.held := by
      rw [hphase]
      exact Nat.one_pos
    have hpos : 0 < l.unflushed := h.pos (Nat.add_pos_left hheld _)
    refine ⟨h.of_outbound_eq rfl id ?_, ?_⟩
    · rw [hphase]
      show l.unflushed - 1 + (1 + l.task.inHand.length) = l.unflushed + (0 + l.task.inHand.length)
      omega
    · show ((l.unflushed - 1 : Nat) : Int) = l.unflushed + -1
      omega
  | pull hinbound => exact ⟨h.of_outbound_eq rfl id rfl, (Int.add_zero _).symm⟩
  | drop => exact ⟨h.of_outbound_eq rfl id rfl, (Int.add_zero _).symm⟩
  | connected htask =>
    refine ⟨h.of_outbound_eq rfl (by simp [htask]) ?_, (Int.add_zero _).symm⟩
    rw [htask]
    rfl
  | received m htask => exact ⟨h.of_outbound_eq rfl id rfl, (Int.add_zero _).symm⟩
  | @take m rest htask houtbound =>
    obtain ⟨stale, hbounded, hzero, hcount⟩ := h
    rw [houtbound, List.length_cons] at hbounded
    have hroom : rest.length + stale ≤ capacity := by omega
    refine ⟨⟨stale, hroom, fun _ => hzero (by simp [htask]), ?_⟩, (Int.add_zero _).symm⟩
    rw [hcount, htask, houtbound]
    show l.phase.held + 0 + (rest.length + 1) + stale = l.phase.held + 1 + rest.length + stale
    omega
  | written htask => exact h.finishWrite htask rfl
  | writeFailed cause htask => exact h.finishWrite htask rfl
  | stop reason hstops =>
    obtain ⟨hup, hhand⟩ := TcpTask.free_of_or (TcpTask.or_of_stopsFor hstops)
    refine ⟨h.of_outbound_eq rfl (fun _ => hup) ?_, (Int.add_zero _).symm⟩
    rw [hhand]
    rfl
  | finish htask =>
    exact ⟨h.finish (by simp [htask]) (by rw [htask]; rfl), (Int.add_zero _).symm⟩
  | cancel htask =>
    obtain ⟨hup, hhand⟩ := TcpTask.free_of_or (htask.imp_right .inl)
    exact ⟨h.finish hup hhand, (Int.add_zero _).symm⟩

end TcpLink

/-! ## What came of a link -/

/-- A link, with what came of it so far. -/
structure TcpHistory where
  link : TcpLink
  /-- The messages that the queue took. -/
  accepted : List Message
  /-- The messages that were written as a whole. -/
  written : List Message
  /-- The messages whose write failed. -/
  failed : List Message
  received : List Message
  /-- The events that the owner has taken. -/
  drained : List LinkEvent
  deriving DecidableEq, Repr

/-- The message that the task receives in a step. -/
def TcpStep.received? : TcpStep → Option Message
  | received m => some m
  | _ => none

namespace TcpLink

/-- The message that the queue takes in a step. -/
def accepts? (l : TcpLink) : TcpStep → Option Message
  | .enqueue =>
    match l.phase with
    | .counted m => if l.queueAnswer = .accepted then some m else none
    | _ => none
  | _ => none

/-- The message whose write is complete after a step. -/
def writes? (l : TcpLink) : TcpStep → Option Message
  | .written =>
    match l.task with
    | .writing m => some m
    | _ => none
  | _ => none

/-- The message whose write fails in a step. -/
def fails? (l : TcpLink) : TcpStep → Option Message
  | .writeFailed _ =>
    match l.task with
    | .writing m => some m
    | _ => none
  | _ => none

/-- The event that the owner takes in a step. -/
def pulls? (l : TcpLink) : TcpStep → Option LinkEvent
  | .pull => l.inbound.head?
  | _ => none

end TcpLink

namespace TcpHistory

/-- Nothing has come of a link that is being connected. -/
def start (peer : String) : TcpHistory := ⟨.connecting peer, [], [], [], [], []⟩

def step? (h : TcpHistory) (s : TcpStep) : Option TcpHistory :=
  (h.link.step? s).map fun link =>
    { link
      accepted := h.accepted ++ (h.link.accepts? s).toList
      written := h.written ++ (h.link.writes? s).toList
      failed := h.failed ++ (h.link.fails? s).toList
      received := h.received ++ s.received?.toList
      drained := h.drained ++ (h.link.pulls? s).toList }

/-- Steps of both sides, in any order. -/
def run? (h : TcpHistory) (steps : List TcpStep) : Option TcpHistory :=
  steps.foldlM step? h

/-! ### The story that the owner is told -/

/-- What is told of a connection that came up. -/
def story (received : List Message) (closed : Option StopReason) : List LinkEvent :=
  .connected :: received.map .line ++ (closed.map fun reason => .closed reason.message).toList

/-- What a task has told after it received these messages. -/
def Told (received : List Message) (told : List LinkEvent) : TcpTask → Prop
  | .connecting => received = [] ∧ told = []
  | .ready | .writing _ | .failing _ => told = story received none
  | .closing | .stopped =>
    (∃ closed, told = story received closed) ∨
      ∃ reason : StopReason, told <+: [.closed reason.message]

variable {l l' : TcpLink} {s : TcpStep} {received : List Message} {told drained : List LinkEvent}

/-- The owner is told why the task stops, after everything else. -/
theorem told_stop (h : Told received told .connecting ∨ Told received told .ready)
    (reason : StopReason) : Told received (told ++ [.closed reason.message]) .closing := by
  rcases h with ⟨-, rfl⟩ | rfl
  · exact .inr ⟨reason, List.prefix_rfl⟩
  · refine .inl ⟨some reason, ?_⟩
    simp [story]

/-- A task may return without a word when the owner has given the link up. -/
theorem told_finish (h : Told received told .connecting ∨ Told received told .ready) :
    Told received told .stopped := by
  rcases h with ⟨-, rfl⟩ | rfl
  · exact .inr ⟨.closedByPeer, List.nil_prefix⟩
  · exact .inl ⟨none, rfl⟩

theorem told_or (h : Told received told l.task)
    (htask : l.task = .connecting ∨ l.task = .ready ∨ ∃ cause, l.task = .failing cause) :
    Told received told .connecting ∨ Told received told .ready := by
  rcases htask with htask | htask | ⟨cause, htask⟩
  · exact .inl (htask ▸ h)
  · exact .inr (htask ▸ h)
  · rw [htask] at h
    exact .inr h

/-- Whatever a task has told is the beginning of a story, or the news that connecting failed. -/
theorem Told.isPrefix {task : TcpTask} (h : Told received told task) :
    (∃ closed, told <+: story received closed) ∨
      ∃ reason : StopReason, told <+: [.closed reason.message] := by
  match task, h with
  | .connecting, ⟨_, hnone⟩ =>
    rw [hnone]
    exact .inr ⟨.closedByPeer, List.nil_prefix⟩
  | .ready, hstory | .writing _, hstory | .failing _, hstory =>
    exact .inl ⟨none, hstory ▸ List.prefix_rfl⟩
  | .closing, hclosed | .stopped, hclosed =>
    exact hclosed.imp_left fun ⟨closed, hstory⟩ => ⟨closed, hstory ▸ List.prefix_rfl⟩

/-- What the owner has taken and what it has not taken yet make up the story. -/
theorem Told.takes (h : Told received (drained ++ l.inbound) l.task) (htakes : l.Takes s l') :
    Told (received ++ s.received?.toList) (drained ++ (l.pulls? s).toList ++ l'.inbound)
      l'.task := by
  have hsame : ∀ {inbound : List LinkEvent} {task : TcpTask},
      Told received (drained ++ inbound) task →
        Told (received ++ []) (drained ++ [] ++ inbound) task := by
    intro inbound task htold
    rwa [List.append_nil, List.append_nil]
  cases htakes with
  | @pull event rest hinbound =>
    have hpulls : (l.pulls? .pull).toList = [event] := by simp [TcpLink.pulls?, hinbound]
    rw [hpulls, List.append_assoc, List.singleton_append, ← hinbound]
    exact (List.append_nil received).symm ▸ h
  | connected htask =>
    rw [htask] at h
    obtain ⟨rfl, hnone⟩ := h
    obtain ⟨rfl, hinbound⟩ := List.append_eq_nil_iff.1 hnone
    show [] ++ (l.inbound ++ [.connected]) = story ([] ++ []) none
    rw [hinbound]
    rfl
  | received m htask =>
    rw [htask] at h
    have htold : drained ++ l.inbound = story received none := h
    have hmore : Told (received ++ [m]) (drained ++ [] ++ (l.inbound ++ [.line m])) .ready := by
      show drained ++ [] ++ (l.inbound ++ [.line m]) = story (received ++ [m]) none
      rw [List.append_nil, ← List.append_assoc, htold]
      simp [story]
    exact htask ▸ hmore
  | take htask houtbound =>
    rw [htask] at h
    exact hsame h
  | written htask =>
    rw [htask] at h
    exact hsame h
  | writeFailed cause htask =>
    rw [htask] at h
    exact hsame h
  | stop reason hstops =>
    refine hsame ?_
    show Told received (drained ++ (l.inbound ++ [.closed reason.message])) .closing
    rw [← List.append_assoc]
    exact told_stop (told_or h (TcpTask.or_of_stopsFor hstops)) reason
  | finish htask =>
    rw [htask] at h
    exact hsame h
  | cancel htask => exact hsame (told_finish (told_or h (htask.imp_right .inl)))
  | _ => exact hsame h

/-! ### The messages -/

/-- The messages that were accepted are, in their order, those that were written, the one whose
write failed, the one that is being written, those in the queue, and those that were lost when the
task returned. A task whose write failed writes no more. -/
structure Carried (accepted written failed : List Message) (l : TcpLink) : Prop where
  all : ∃ lost, accepted = written ++ failed ++ l.task.inHand ++ l.outbound ++ lost ∧
    (l.task ≠ .stopped → lost = [])
  at_most_one : failed.length ≤ 1
  none_failed : l.task.isOver = false → failed = []

variable {accepted written failed : List Message}

theorem carried_finish (h : Carried accepted written failed l) (htask : l.task ≠ .stopped)
    (hhand : l.task.inHand = []) : Carried accepted written failed l.finish := by
  obtain ⟨lost, hall, hnone⟩ := h.all
  rw [hnone htask, hhand, List.append_nil] at hall
  refine ⟨⟨l.outbound, ?_, nofun⟩, h.at_most_one, nofun⟩
  show accepted = written ++ failed ++ [] ++ [] ++ l.outbound
  rw [hall, List.append_nil, List.append_nil]

/-- The message that is being written is the first one that was not, and no write has failed. -/
theorem Carried.of_writing {m : Message} (h : Carried accepted written failed l)
    (htask : l.task = .writing m) : failed = [] ∧ accepted = written ++ m :: l.outbound := by
  have hnone : failed = [] := h.none_failed (by rw [htask]; rfl)
  obtain ⟨lost, hall, hlost⟩ := h.all
  rw [hlost (by simp [htask]), hnone, htask] at hall
  refine ⟨hnone, ?_⟩
  rw [hall]
  simp [TcpTask.inHand]

theorem Carried.takes (h : Carried accepted written failed l) (htakes : l.Takes s l') :
    Carried (accepted ++ (l.accepts? s).toList) (written ++ (l.writes? s).toList)
      (failed ++ (l.fails? s).toList) l' := by
  have hsame : ∀ {l' : TcpLink}, Carried accepted written failed l' →
      Carried (accepted ++ []) (written ++ []) (failed ++ []) l' := by
    intro l' hcarried
    rwa [List.append_nil, List.append_nil, List.append_nil]
  obtain ⟨lost, hall, hlost⟩ := h.all
  cases htakes with
  | @accept m hphase hanswer =>
    obtain ⟨hup, -⟩ := TcpLink.queueAnswer_eq_accepted hanswer
    have haccepts : l.accepts? .enqueue = some m := by simp [TcpLink.accepts?, hphase, hanswer]
    -- The queue is there, so nothing is lost that the message could be put behind.
    have hmore : accepted ++ [m] =
        written ++ failed ++ l.task.inHand ++ (l.outbound ++ [m]) ++ [] := by
      rw [hall, hlost hup]
      simp
    rw [haccepts]
    show Carried (accepted ++ [m]) (written ++ []) (failed ++ []) _
    rw [List.append_nil, List.append_nil]
    exact ⟨⟨[], hmore, fun _ => rfl⟩, h.at_most_one, h.none_failed⟩
  | refuse hphase hanswer =>
    have haccepts : l.accepts? .enqueue = none := by simp [TcpLink.accepts?, hphase, hanswer]
    rw [haccepts]
    exact hsame ⟨h.all, h.at_most_one, h.none_failed⟩
  | connected htask =>
    rw [htask] at hall hlost
    exact hsame ⟨⟨lost, hall, fun _ => hlost nofun⟩, h.at_most_one,
      fun _ => h.none_failed (by rw [htask]; rfl)⟩
  | @take m rest htask houtbound =>
    rw [htask, houtbound] at hall
    refine hsame ⟨⟨lost, ?_, fun _ => hlost (by simp [htask])⟩, h.at_most_one,
      fun _ => h.none_failed (by rw [htask]; rfl)⟩
    rw [hall]
    simp [TcpTask.inHand]
  | @written m htask =>
    obtain ⟨rfl, hnext⟩ := h.of_writing htask
    have hwrites : l.writes? .written = some m := by simp [TcpLink.writes?, htask]
    rw [hwrites, hnext]
    refine ⟨⟨[], ?_, fun _ => rfl⟩, Nat.zero_le _, fun _ => rfl⟩
    simp [TcpTask.inHand, TcpLink.finishWrite, TcpLink.accepts?, TcpLink.fails?]
  | @writeFailed m cause htask =>
    obtain ⟨rfl, hnext⟩ := h.of_writing htask
    have hfails : l.fails? (.writeFailed cause) = some m := by simp [TcpLink.fails?, htask]
    rw [hfails, hnext]
    refine ⟨⟨[], ?_, fun _ => rfl⟩, Nat.le_refl _, nofun⟩
    simp [TcpTask.inHand, TcpLink.finishWrite, TcpLink.accepts?, TcpLink.writes?]
  | stop reason hstops =>
    obtain ⟨hup, hhand⟩ := TcpTask.free_of_or (TcpTask.or_of_stopsFor hstops)
    rw [hhand] at hall
    exact hsame ⟨⟨lost, hall, fun _ => hlost hup⟩, h.at_most_one, nofun⟩
  | finish htask => exact hsame (carried_finish h (by simp [htask]) (by rw [htask]; rfl))
  | cancel htask =>
    obtain ⟨hup, hhand⟩ := TcpTask.free_of_or (htask.imp_right .inl)
    exact hsame (carried_finish h hup hhand)
  | _ => exact hsame ⟨h.all, h.at_most_one, h.none_failed⟩

/-! ### Runs -/

/-- The story is consistent, no message is out of order, and the count is right. -/
structure Consistent (h : TcpHistory) : Prop where
  told : Told h.received (h.drained ++ h.link.inbound) h.link.task
  carried : Carried h.accepted h.written h.failed h.link
  counted : h.link.Counted

theorem consistent_start (peer : String) : (start peer).Consistent where
  told := ⟨rfl, rfl⟩
  carried := ⟨⟨[], rfl, fun _ => rfl⟩, Nat.zero_le _, fun _ => rfl⟩
  counted := ⟨0, Nat.zero_le _, fun _ => rfl, rfl⟩

variable {h h' : TcpHistory} {steps : List TcpStep}

theorem consistent_step? (hconsistent : h.Consistent) (hstep : h.step? s = some h') :
    h'.Consistent ∧ (h'.link.unflushed : Int) = h.link.unflushed + s.change := by
  obtain ⟨link, hlink, rfl⟩ := Option.map_eq_some_iff.1 hstep
  have htakes := TcpLink.takes_of_step? hlink
  obtain ⟨hcounted, hchange⟩ := hconsistent.counted.takes htakes
  exact ⟨⟨hconsistent.told.takes htakes, hconsistent.carried.takes htakes, hcounted⟩, hchange⟩

theorem consistent_run? (hconsistent : h.Consistent) (hrun : h.run? steps = some h') :
    h'.Consistent ∧
      (h'.link.unflushed : Int) = h.link.unflushed + (steps.map TcpStep.change).sum := by
  induction steps generalizing h with
  | nil =>
    cases hrun
    exact ⟨hconsistent, (Int.add_zero _).symm⟩
  | cons s rest ih =>
    obtain ⟨next, hstep, hrest⟩ := Option.bind_eq_some_iff.1 hrun
    obtain ⟨hnext, hchange⟩ := consistent_step? hconsistent hstep
    obtain ⟨hlast, htotal⟩ := ih hnext hrest
    refine ⟨hlast, ?_⟩
    rw [htotal, hchange, List.map_cons, List.sum_cons, Int.add_assoc]

theorem Consistent.ended_prefix (hconsistent : h.Consistent) :
    h.written ++ h.failed <+: h.accepted := by
  obtain ⟨lost, hall, -⟩ := hconsistent.carried.all
  rw [hall, List.append_assoc, List.append_assoc]
  exact List.prefix_append _ _

theorem Consistent.unflushed_eq (hconsistent : h.Consistent) (hidle : h.link.phase = .idle)
    (hup : h.link.task ≠ .stopped) :
    h.accepted.length = h.written.length + h.failed.length + h.link.unflushed := by
  obtain ⟨lost, hall, hlost⟩ := hconsistent.carried.all
  obtain ⟨stale, -, hstale, hcount⟩ := hconsistent.counted
  rw [hlost hup] at hall
  rw [hall, hcount, hstale hup, hidle]
  simp [SendPhase.held, Nat.add_assoc]

/-- What the owner has taken is the beginning of the story. -/
theorem Consistent.drained_prefix (hconsistent : h.Consistent) :
    (∃ closed, h.drained <+: story h.received closed) ∨
      ∃ reason : StopReason, h.drained <+: [.closed reason.message] := by
  have hprefix : h.drained <+: h.drained ++ h.link.inbound := List.prefix_append _ _
  rcases hconsistent.told.isPrefix with ⟨closed, hstory⟩ | ⟨reason, hfailed⟩
  · exact .inl ⟨closed, hprefix.trans hstory⟩
  · exact .inr ⟨reason, hprefix.trans hfailed⟩

/-- A write fails in a step of that kind only. -/
theorem failed_run? (hrun : h.run? steps = some h') :
    h'.failed = h.failed ∨ ∃ cause, .writeFailed cause ∈ steps := by
  induction steps generalizing h with
  | nil =>
    cases hrun
    exact .inl rfl
  | cons s rest ih =>
    obtain ⟨next, hstep, hrest⟩ := Option.bind_eq_some_iff.1 hrun
    obtain ⟨link, -, rfl⟩ := Option.map_eq_some_iff.1 hstep
    cases s with
    | writeFailed cause => exact .inr ⟨cause, List.mem_cons_self⟩
    | _ =>
      refine (ih hrest).imp (fun hfailed => hfailed.trans (List.append_nil _)) ?_
      rintro ⟨cause, hcause⟩
      exact ⟨cause, List.mem_cons_of_mem _ hcause⟩

/-- Whatever the owner of a TCP link and the task of its connection do, and in whatever order:

* The events that the owner took are the beginning of a story. Either connecting failed, which is
  all that is told, or the connection came up, and then the messages that were received come in
  their order, and at most one end after them.
* The messages that were written as a whole are the first ones of those that were accepted. If a
  write failed, it was that of the next one, and nothing is written after it.
* The count is what was added to it without what was taken from it, so that nothing is ever taken
  from zero.
* As long as the task has not returned, and while no message is just being handed over, the count is
  the number of messages that were accepted and whose write has not ended. So the owner knows
  whether there are any. A message whose write failed is not among them, though it was not written,
  see `not_unwritten_counted`.

A write and the end of its count are one step here, see `TcpLink.step?`. On the side of the owner,
`TcpLink.step?_trySend` cuts the call that hands a message over into steps, and
`TcpLink.steps?_drain` the call that takes all events. -/
theorem transport_protocol {peer : String} {steps : List TcpStep} {h : TcpHistory}
    (hrun : (start peer).run? steps = some h) :
    ((∃ closed : Option String, h.drained <+:
          .connected :: h.received.map .line ++ (closed.map .closed).toList) ∨
        ∃ reason, h.drained <+: [.closed reason]) ∧
      h.written <+: h.accepted ∧
      (h.failed = [] ∨ ∃ cause m, .writeFailed cause ∈ steps ∧ h.failed = [m] ∧
        h.written ++ [m] <+: h.accepted ∧ h.link.task.isOver) ∧
      (h.link.unflushed : Int) = (steps.map TcpStep.change).sum ∧
      (h.link.task ≠ .stopped → h.link.phase = .idle →
        h.accepted.length = h.written.length + h.failed.length + h.link.unflushed ∧
          (h.link.hasUnflushed ↔ h.written ++ h.failed ≠ h.accepted)) := by
  obtain ⟨hconsistent, hcount⟩ := consistent_run? (consistent_start peer) hrun
  have hended := hconsistent.ended_prefix
  refine ⟨?_, (List.prefix_append _ _).trans hended, ?_, hcount.trans (Int.zero_add _),
    fun hup hidle => ?_⟩
  · rcases hconsistent.drained_prefix with ⟨closed, hstory⟩ | ⟨reason, hfailed⟩
    · refine .inl ⟨closed.map StopReason.message, ?_⟩
      rwa [Option.map_map]
    · exact .inr ⟨reason.message, hfailed⟩
  · rcases failed_run? hrun with hnone | ⟨cause, hcause⟩
    · exact .inl hnone
    · match hfailed : h.failed, hconsistent.carried.at_most_one with
      | [], _ => exact .inl rfl
      | [m], _ =>
        have hover : h.link.task.isOver = true := by
          by_contra hworks
          rw [hconsistent.carried.none_failed (by simpa using hworks)] at hfailed
          contradiction
        exact .inr ⟨cause, m, hcause, rfl, hfailed ▸ hended, hover⟩
  · have hcounted := hconsistent.unflushed_eq hidle hup
    refine ⟨hcounted, ?_⟩
    have hflushed : h.written ++ h.failed = h.accepted ↔ h.link.unflushed = 0 := by
      constructor
      · intro hall
        rw [← hall, List.length_append] at hcounted
        omega
      · intro hnone
        refine hended.eq_of_length ?_
        rw [List.length_append]
        omega
    rw [Ne, hflushed, TcpLink.hasUnflushed, decide_eq_true_iff, Nat.pos_iff_ne_zero]

/-- A message that has no words, so that it cannot be written. -/
def wordless : Message := ⟨.request, []⟩

/-- The task takes a message while the next one is being handed over, and cannot write that one. The
last one is accepted when the task has stopped, before the owner knows. -/
def writeFails (first : Message) : List TcpStep :=
  [.count first, .enqueue, .connected, .count wordless, .take, .enqueue, .written,
    .received ⟨.inform, ["version-connect"]⟩, .take, .writeFailed .emptyMessage,
    .stop (.writeFailed .emptyMessage), .pull, .pull, .count first, .enqueue]

/-- One of the three messages was written, the write of one failed, and the other one is counted. -/
theorem transport_protocol_writeFails :
    let first := Message.request "help" []
    let inform : Message := ⟨.inform, ["version-connect"]⟩
    let h : TcpHistory :=
      { link := ⟨"peer", .closing, .idle, [first],
          [.closed "write failed: Message has no words"], 1, false⟩
        accepted := [first, wordless, first]
        written := [first]
        failed := [wordless]
        received := [inform]
        drained := [.connected, .line inform] }
    (start "peer").run? (writeFails first) = some h ∧
      ((writeFails first).map TcpStep.change).sum = 1 ∧
      h.accepted.length = h.written.length + h.failed.length + h.link.unflushed ∧
      h.link.hasUnflushed := by
  intro first inform h
  have hrun : (start "peer").run? (writeFails first) = some h := by decide +kernel
  obtain ⟨-, -, -, hchanges, hcount⟩ := transport_protocol hrun
  obtain ⟨hcounted, hunflushed⟩ := hcount nofun rfl
  exact ⟨hrun, hchanges.symm, hcounted, hunflushed.2 (by decide)⟩

/-- The only message that is accepted cannot be written. The task has told the owner, and has not
returned. -/
def writeFailsFirst : List TcpStep :=
  [.count wordless, .enqueue, .connected, .take, .writeFailed .emptyMessage,
    .stop (.writeFailed .emptyMessage)]

/-- The messages that were accepted and not written are not always counted until the task returns.
After a write that failed, the count is zero. -/
theorem not_unwritten_counted :
    ¬ ∀ (peer : String) (steps : List TcpStep) (h : TcpHistory),
      (start peer).run? steps = some h → h.link.task ≠ .stopped → h.link.phase = .idle →
        h.accepted.length = h.written.length + h.link.unflushed := by
  intro hall
  have hrun : (start "peer").run? writeFailsFirst = some
      { link := ⟨"peer", .closing, .idle, [],
          [.connected, .closed "write failed: Message has no words"], 0, false⟩
        accepted := [wordless]
        written := []
        failed := [wordless]
        received := []
        drained := [] } := by decide +kernel
  exact absurd (hall "peer" writeFailsFirst _ hrun nofun rfl) (by decide)

end TcpHistory

end ArrayWatch
