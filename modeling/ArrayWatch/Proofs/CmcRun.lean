import ArrayWatch.CmcServer.Run
import ArrayWatch.Link.Scripted
import ArrayWatch.Proofs.RecordedNetwork

/-!
# Runs of a CMC server

A call that receives has parts: the arrays take what came for them, those that never came up are
dropped and the channel takes what came from the CMC, and then one event after the other is acted
on. A run is cut into these parts, so that it can be said what holds when an event has just been
acted on.

* `CmcMoment.step?` is one part, where it is its turn.
* `CmcMoment.run?_receive`: the parts make up the call.
* `CmcMoment.asking`: a CMC that has been asked for its arrays, over scripted links.
-/

namespace ArrayWatch

/-- Where a CMC server is in its work. -/
inductive CmcPhase where
  /-- Between two calls. -/
  | resting
  /-- The arrays have taken what came for them. -/
  | gathered
  /-- These events of the channel are still to be acted on. -/
  | acting (todo : List ChannelEvent)
  deriving DecidableEq, Repr

/-- A CMC server in its world, in the midst of its work. -/
structure CmcMoment (ν : Type) where
  server : CmcServer
  world : World (Recorded ν)
  phase : CmcPhase

/-- What happens next. -/
inductive CmcAct (ν : Type) where
  | poll
  | reconnect
  | flush
  /-- The arrays take what came for them. -/
  | gather (now : Timestamp)
  /-- The channel takes what came from the CMC. -/
  | collect
  | handle (event : ChannelEvent)
  /-- All events have been acted on. -/
  | finish
  /-- The remote sides do something. -/
  | remote (move : ν → ν)

/-- The parts of a call that receives, where the channel brings these events. -/
def CmcAct.receiving {ν : Type} (now : Timestamp) (events : List ChannelEvent) :
    List (CmcAct ν) :=
  .gather now :: .collect :: (events.map .handle ++ [.finish])

namespace CmcMoment

variable {ν : Type} [Network ν]

/-- A CMC that is being connected to. -/
def start (address : String) (port : UInt16) (plan : Plan) (maxRetries : UInt32) (net : ν)
    (metrics : Metrics) : CmcMoment ν :=
  let (server, net) := CmcServer.start address port plan maxRetries (Recorded.fresh net)
  ⟨server, ⟨net, metrics⟩, .resting⟩

def gather (m : CmcMoment ν) (now : Timestamp) : CmcMoment ν :=
  let (arrays, world) := World.each (·.receive now ·) m.server.arrays m.world
  ⟨{ m.server with arrays }, world, .gathered⟩

def collect (m : CmcMoment ν) : CmcMoment ν :=
  let server := m.server.dropUnopened
  let (channel, received, net) := server.channel.read m.world.net
  ⟨{ server with channel }, { m.world with net }, .acting received⟩

def handle (m : CmcMoment ν) (event : ChannelEvent) (todo : List ChannelEvent) : CmcMoment ν :=
  let (server, world) := m.server.event m.world event
  ⟨server, world, .acting todo⟩

/-- What happens next, where it can. Only the remote sides act at any time. -/
def step? (m : CmcMoment ν) : CmcAct ν → Option (CmcMoment ν)
  | .poll =>
    match m.phase with
    | .resting => some { m with server := m.server.pollArrayList }
    | _ => none
  | .reconnect =>
    match m.phase with
    | .resting =>
      let (_, server, world) := m.server.reconnect m.world
      some { m with server, world }
    | _ => none
  | .flush =>
    match m.phase with
    | .resting =>
      let (server, world) := m.server.flush m.world
      some { m with server, world }
    | _ => none
  | .gather now =>
    match m.phase with
    | .resting => some (m.gather now)
    | _ => none
  | .collect =>
    match m.phase with
    | .gathered => some m.collect
    | _ => none
  | .handle event =>
    match m.phase with
    | .acting (next :: todo) => if next = event then some (m.handle event todo) else none
    | _ => none
  | .finish =>
    match m.phase with
    | .acting [] => some { m with phase := .resting }
    | _ => none
  | .remote move => some { m with world.net := m.world.net.act move }

def run? (m : CmcMoment ν) (acts : List (CmcAct ν)) : Option (CmcMoment ν) :=
  acts.foldlM step? m

/-- What can become of a CMC that was started. -/
def Reachable (m : CmcMoment ν) : Prop :=
  ∃ address port plan maxRetries net metrics acts,
    (start address port plan maxRetries net metrics).run? acts = some m

/-! ## Runs -/

variable {m m' : CmcMoment ν}

@[simp] theorem run?_nil (m : CmcMoment ν) : m.run? [] = some m := rfl

theorem run?_cons (m : CmcMoment ν) (act : CmcAct ν) (acts : List (CmcAct ν)) :
    m.run? (act :: acts) = (m.step? act).bind (·.run? acts) := by
  simp [run?, List.foldlM_cons]

theorem run?_append (m : CmcMoment ν) (first rest : List (CmcAct ν)) :
    m.run? (first ++ rest) = (m.run? first).bind (·.run? rest) := by
  simp [run?, List.foldlM_append]

theorem run?_cons_eq_some {act : CmcAct ν} {acts : List (CmcAct ν)} :
    m.run? (act :: acts) = some m' ↔
      ∃ next, m.step? act = some next ∧ next.run? acts = some m' := by
  rw [run?_cons, Option.bind_eq_some_iff]

theorem run?_append_eq_some {first rest : List (CmcAct ν)} :
    m.run? (first ++ rest) = some m' ↔
      ∃ middle, m.run? first = some middle ∧ middle.run? rest = some m' := by
  rw [run?_append, Option.bind_eq_some_iff]

/-- What every part of a kind keeps is kept by a run of such parts. -/
theorem run?_keeps_of {P : CmcMoment ν → Prop} {Q : CmcAct ν → Prop}
    (hstep : ∀ m act m', m.step? act = some m' → Q act → P m → P m') {acts : List (CmcAct ν)}
    (hrun : m.run? acts = some m') (hacts : ∀ act ∈ acts, Q act) (h : P m) : P m' := by
  induction acts generalizing m with
  | nil => exact Option.some.inj hrun ▸ h
  | cons act rest ih =>
    obtain ⟨next, hnext, hrest⟩ := run?_cons_eq_some.1 hrun
    have hnext' := hstep m act next hnext (hacts act List.mem_cons_self) h
    exact ih hrest (fun act' hact' => hacts act' (List.mem_cons_of_mem _ hact')) hnext'

/-- What every part keeps is kept by a run. -/
theorem run?_keeps {P : CmcMoment ν → Prop}
    (hstep : ∀ m act m', m.step? act = some m' → P m → P m') {acts : List (CmcAct ν)}
    (hrun : m.run? acts = some m') (h : P m) : P m' :=
  run?_keeps_of (Q := fun _ => True) (fun m act m' hact _ => hstep m act m' hact) hrun
    (fun _ _ => trivial) h

theorem Reachable.run {acts : List (CmcAct ν)} (h : m.Reachable) (hrun : m.run? acts = some m') :
    m'.Reachable := by
  obtain ⟨address, port, plan, maxRetries, net, metrics, first, hfirst⟩ := h
  exact ⟨address, port, plan, maxRetries, net, metrics, first ++ acts,
    run?_append_eq_some.2 ⟨m, hfirst, hrun⟩⟩

theorem Reachable.step {act : CmcAct ν} (h : m.Reachable) (hstep : m.step? act = some m') :
    m'.Reachable :=
  h.run (run?_cons_eq_some.2 ⟨m', hstep, run?_nil m'⟩)

/-! ## Calls and their parts -/

/-- All events of the channel are acted on one after the other. -/
theorem run?_handle (m : CmcMoment ν) (todo : List ChannelEvent) :
    { m with phase := .acting todo }.run? (todo.map CmcAct.handle ++ [CmcAct.finish]) =
      some ⟨(m.server.events m.world todo).1, (m.server.events m.world todo).2, .resting⟩ := by
  induction todo generalizing m with
  | nil => rfl
  | cons event rest ih =>
    have hstep : { m with phase := .acting (event :: rest) }.step? (.handle event) =
        some { m.handle event rest with phase := .acting rest } := by
      simp [step?, handle]
    rw [List.map_cons, List.cons_append, run?_cons, hstep]
    exact ih (m.handle event rest)

/-- A call that receives is made up of its parts. -/
theorem run?_receive (server : CmcServer) (world : World (Recorded ν)) (now : Timestamp) :
    ∃ events, run? ⟨server, world, .resting⟩ (CmcAct.receiving now events) =
      some ⟨(server.receive now world).1, (server.receive now world).2, .resting⟩ := by
  let gathered := gather ⟨server, world, .resting⟩ now
  exact ⟨(gathered.server.dropUnopened.channel.read gathered.world.net).2.1,
    run?_handle gathered.collect _⟩

end CmcMoment

/-! ## Scripted runs -/

/-- The reply that a request succeeded. -/
def Message.accept (request : Message) : Message := ⟨.reply, [request.name?.getD "", "ok"]⟩

namespace CmcAct

/-- Something happens on a link. -/
def happens (id : Nat) (event : LinkEvent) : CmcAct ScriptedNetwork :=
  .remote fun net => net.modify id fun link => link.happen event

/-- The CMC sends lines, and these events of its channel are acted on. -/
def hears (lines : List Message) (events : List ChannelEvent) : List (CmcAct ScriptedNetwork) :=
  lines.map (fun line => happens 0 (.line line)) ++
    (.gather ⟨0⟩ :: .collect :: events.map .handle)

/-- The CMC accepts a request, and the next one is sent. -/
def accepts (request : Message) : List (CmcAct ScriptedNetwork) :=
  hears [request.accept] [.reply request request.accept] ++ [.finish, .flush]

/-- The CMC answers everything that comes before the request for its arrays. -/
def handshake : List (CmcAct ScriptedNetwork) :=
  .happens 0 .connected :: (receiving ⟨0⟩ [] ++ [.flush]) ++
    (CmcServer.seed.take 2).flatMap accepts

end CmcAct

namespace CmcMoment

def started : CmcMoment ScriptedNetwork :=
  start "cmc" CmcServer.defaultPort ⟨[], defaultEnginesPerHost⟩ 0 .empty .zero

/-- The request for the arrays waits for its reply. -/
def asking : CmcMoment ScriptedNetwork :=
  (started.run? CmcAct.handshake).get (by decide +kernel)

theorem reachable_asking : asking.Reachable :=
  ⟨_, _, _, _, _, _, CmcAct.handshake, (Option.some_get _).symm⟩

end CmcMoment

end ArrayWatch
