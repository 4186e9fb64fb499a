import ArrayWatch.Link.Scripted
import ArrayWatch.Proofs.CmcBooks

/-!
# Metrics that agree with the channels

Several CMC servers work side by side in one world. Servers are started at any time, their calls
come in any order, and the remote sides act in between. The metrics then agree with what all
channels have counted, those of the arrays included that are tracked no more.

* `Fleet.run`: a run of the servers, which keeps the arrays that are gone.
* `Weights.books_step`: what one step comes to in both sets of books.
* `Fleet.metrics_agree`: the law for every run.
-/

namespace ArrayWatch

/-- CMC servers in one world, and the arrays that they track no more. -/
structure Fleet (ν : Type) where
  servers : List CmcServer
  world : World (Recorded (Tapped ν))
  /-- The arrays that were dropped because they never came up. -/
  unopened : List CorrelatorArray
  /-- The arrays that were removed as suspect. -/
  suspects : List CorrelatorArray

/-- What happens to a fleet. -/
inductive FleetAct (ν : Type) where
  | start (address : String) (port : UInt16) (plan : Plan) (maxRetries : UInt32)
  /-- A call to the server at a place. -/
  | call (i : Nat) (c : CmcCall)
  /-- The remote sides do something. -/
  | remote (move : ν → ν)

/-- The two channels of an array. -/
def CorrelatorArray.channels (a : CorrelatorArray) : List Channel := [a.control, a.monitor]

/-- The channel of a CMC, and those of its arrays. -/
def CmcServer.channels (s : CmcServer) : List Channel :=
  s.channel :: s.arrays.flatMap CorrelatorArray.channels

namespace Fleet

variable {ν : Type}

/-- No server was started yet, and nothing is counted. -/
def empty (net : ν) : Fleet ν := ⟨[], ⟨.fresh (.fresh net), .zero⟩, [], []⟩

/-- Every channel that was ever made. -/
def channels (f : Fleet ν) : List Channel :=
  f.servers.flatMap CmcServer.channels ++
    (f.unopened ++ f.suspects).flatMap CorrelatorArray.channels

/-- What all channels together have counted of something. -/
def total (f : Fleet ν) (count : Channel → Nat) : Int :=
  (f.channels.map fun c => (count c : Int)).sum

/-- The arrays of every server are in the order of their names, and only suspects were removed. -/
structure InOrder (f : Fleet ν) : Prop where
  sorted : ∀ s ∈ f.servers, s.names.Pairwise (· < ·)
  suspect : ∀ a ∈ f.suspects, a.isSuspect

theorem inOrder_empty (net : ν) : (empty net).InOrder :=
  ⟨fun _ hs => absurd hs List.not_mem_nil, fun _ ha => absurd ha List.not_mem_nil⟩

variable [Network ν]

/-- A call to one server, where there is one. -/
def call (f : Fleet ν) (i : Nat) (c : CmcCall) : Fleet ν :=
  match f.servers[i]? with
  | none => f
  | some s =>
    let (server, world) := c.perform s f.world
    let (unopened, suspects) := c.departures s f.world
    ⟨f.servers.set i server, world, f.unopened ++ unopened, f.suspects ++ suspects⟩

def step (f : Fleet ν) : FleetAct ν → Fleet ν
  | .start address port plan maxRetries =>
    let (server, net) := CmcServer.start address port plan maxRetries f.world.net
    { f with servers := f.servers ++ [server], world := { f.world with net } }
  | .call i c => f.call i c
  | .remote move => { f with world.net := f.world.net.act (·.act move) }

def run (f : Fleet ν) (acts : List (FleetAct ν)) : Fleet ν := acts.foldl step f

theorem call_cases (f : Fleet ν) (i : Nat) (c : CmcCall) :
    f.call i c = f ∨ ∃ s, f.servers[i]? = some s ∧
      f.call i c = ⟨f.servers.set i (c.perform s f.world).1, (c.perform s f.world).2,
        f.unopened ++ (c.departures s f.world).1, f.suspects ++ (c.departures s f.world).2⟩ := by
  unfold call
  cases hplace : f.servers[i]? with
  | none => exact .inl rfl
  | some s => exact .inr ⟨s, rfl, rfl⟩

theorem inOrder_step {f : Fleet ν} (h : f.InOrder) (act : FleetAct ν) : (f.step act).InOrder := by
  cases act with
  | start address port plan maxRetries =>
    refine ⟨fun s hs => ?_, h.suspect⟩
    rcases List.mem_append.1 hs with hs | hs
    · exact h.sorted s hs
    · rw [List.mem_singleton.1 hs]
      exact .nil
  | call i c =>
    show (f.call i c).InOrder
    rcases f.call_cases i c with hsame | ⟨s, hplace, hcall⟩
    · rwa [hsame]
    · have hs := h.sorted s (List.mem_of_getElem? hplace)
      rw [hcall]
      refine ⟨fun s' hs' => ?_, fun a ha => ?_⟩
      · rcases List.mem_or_eq_of_mem_set hs' with hs' | rfl
        · exact h.sorted s' hs'
        · exact c.sorted_perform hs f.world
      · rcases List.mem_append.1 ha with ha | ha
        · exact h.suspect a ha
        · exact c.isSuspect_of_mem_departures hs f.world ha
  | remote move => exact ⟨h.sorted, h.suspect⟩

end Fleet

namespace Weights

variable (k : Weights) {ν : Type}

/-- What all channels have counted, and the removals. -/
def ofFleet (f : Fleet ν) : Int :=
  (f.servers.map k.ofServer).sum + k.ofArrays f.unopened + k.ofArrays f.suspects +
    k.pruned * f.suspects.length

/-- A sum in which one item is replaced. -/
theorem sum_map_set {α : Type} (worth : α → Int) {items : List α} {i : Nat} {a : α}
    (h : items[i]? = some a) (b : α) :
    ((items.set i b).map worth).sum = (items.map worth).sum + (worth b - worth a) := by
  obtain ⟨hi, rfl⟩ := List.getElem?_eq_some_iff.1 h
  rw [List.map_set, List.sum_set', dif_pos (by simpa using hi), List.getElem_map]
  ring

/-- A server that is started has a channel on a link of its own, and nothing is counted. -/
theorem ofServer_ofLink (address : String) (port : UInt16) (plan : Plan) (maxRetries : UInt32)
    (link : Link) : k.ofServer (.ofLink address port plan maxRetries link) = k.links := by
  simp [ofServer, CmcServer.ofLink, ofArrays, ofChannel, Channel.connecting, ChannelStats.zero]

/-- What one step comes to in both sets of books. -/
theorem books_step [Network ν] {f : Fleet ν} (h : f.InOrder) (act : FleetAct ν) :
    k.Books f.world (f.step act).world (k.ofFleet (f.step act) - k.ofFleet f) := by
  cases act with
  | start address port plan maxRetries =>
    refine ⟨List.prefix_refl _, fun _ => ?_⟩
    simp only [ofWorld, ofFleet, Fleet.step, CmcServer.start, Recorded.opened_openLink,
      List.map_append, List.map_cons, List.map_nil, List.sum_append, List.sum_cons, List.sum_nil,
      List.length_append, List.length_singleton, Nat.cast_add, Nat.cast_one]
    rw [ofServer_ofLink]
    ring
  | call i c =>
    show k.Books f.world (f.call i c).world (k.ofFleet (f.call i c) - k.ofFleet f)
    rcases f.call_cases i c with hsame | ⟨s, hplace, hcall⟩
    · rw [hsame]
      exact (Books.refl _).of_eq (Int.sub_self _).symm
    · rw [hcall]
      have hbooks := c.books_perform k (h.sorted s (List.mem_of_getElem? hplace)) f.world
      refine hbooks.of_eq ?_
      simp only [ofFleet, sum_map_set k.ofServer hplace, ofArrays_append, List.length_append,
        Nat.cast_add]
      ring
  | remote move => exact .of_metrics (List.prefix_refl _) rfl fun _ => by simp [Fleet.step, ofFleet]

theorem books_run [Network ν] {f : Fleet ν} (h : f.InOrder) (acts : List (FleetAct ν)) :
    k.Books f.world (f.run acts).world (k.ofFleet (f.run acts) - k.ofFleet f) := by
  induction acts generalizing f with
  | nil => exact (Books.refl _).of_eq (Int.sub_self _).symm
  | cons act rest ih =>
    refine ((k.books_step h act).trans (ih (Fleet.inOrder_step h act))).of_eq ?_
    show _ = k.ofFleet ((f.step act).run rest) - _
    omega

/-! ## Reading the books -/

theorem sum_channels_arrays (arrays : List CorrelatorArray) :
    ((arrays.flatMap CorrelatorArray.channels).map k.ofChannel).sum = k.ofArrays arrays := by
  induction arrays with
  | nil => rfl
  | cons a rest ih =>
    rw [List.flatMap_cons, List.map_append, List.sum_append, ih]
    simp [ofArrays, ofArray, CorrelatorArray.channels]

theorem sum_ofServer (servers : List CmcServer) :
    (servers.map k.ofServer).sum = ((servers.flatMap CmcServer.channels).map k.ofChannel).sum +
      (k.reconnects + k.links) * ((servers.map CmcServer.reconnects).sum : Nat) := by
  induction servers with
  | nil => simp
  | cons s rest ih =>
    rw [List.flatMap_cons, List.map_append, List.sum_append, List.map_cons, List.sum_cons, ih]
    simp only [ofServer, CmcServer.channels, List.map_cons, List.sum_cons, sum_channels_arrays,
      Nat.cast_add]
    ring

/-- A fleet has counted what its channels have counted, what was opened again and what was
removed. -/
theorem ofFleet_eq (f : Fleet ν) :
    k.ofFleet f = (f.channels.map k.ofChannel).sum +
      (k.reconnects + k.links) * ((f.servers.map CmcServer.reconnects).sum : Nat) +
        k.pruned * f.suspects.length := by
  rw [ofFleet, Fleet.channels, List.map_append, List.sum_append, sum_channels_arrays,
    ofArrays_append, sum_ofServer]
  ring

end Weights

namespace Fleet

variable {ν : Type} [Network ν]

theorem inOrder_run {f : Fleet ν} (h : f.InOrder) (acts : List (FleetAct ν)) :
    (f.run acts).InOrder := by
  induction acts generalizing f with
  | nil => exact h
  | cons act rest ih => exact ih (inOrder_step h act)

/-- What can become of a fleet whose servers are all started with metrics of zero. -/
def Reachable (f : Fleet ν) : Prop := ∃ net acts, (empty net).run acts = f

/-- Both sets of books come to the same, whatever each thing is worth. -/
theorem Reachable.books_balance {f : Fleet ν} (h : f.Reachable) (k : Weights)
    (hfair : k.Fair f.world.delivered) :
    k.ofMetrics f.world.metrics + k.links * f.world.net.opened.length =
      (f.channels.map k.ofChannel).sum +
        (k.reconnects + k.links) * ((f.servers.map CmcServer.reconnects).sum : Nat) +
          k.pruned * f.suspects.length := by
  obtain ⟨net, acts, rfl⟩ := h
  have hgain := (k.books_run (inOrder_empty net) acts).gain hfair
  have hfleet : k.ofFleet (empty net) = 0 := by simp [Weights.ofFleet, Weights.ofArrays, empty]
  have hworld : k.ofWorld (empty net).world = 0 := by
    simp [Weights.ofWorld, empty, Recorded.fresh, k.ofMetrics_zero]
  rw [hfleet, hworld, Int.sub_zero, Int.zero_add, k.ofFleet_eq] at hgain
  exact hgain

/-- However the servers are called and whatever the remote sides do: the requests that were sent by
the channels of a role, the replies that did not say ok, the connections that were opened again and
the arrays that were removed as suspect are counted in the metrics as they are counted by the
servers and by all channels that were ever made, and so are the informs, as long as every inform
that was delivered has a name. No channel is left out: each link that was opened is that of a
channel, or belongs to a connection that was opened again. -/
theorem metrics_agree (net : ν) (acts : List (FleetAct ν)) :
    let f := (empty net).run acts
    let m := f.world.metrics
    (∀ role, m.sentBy role = f.total fun c => if c.role = role then c.stats.sent else 0) ∧
      m.requestFailures.total = f.total (·.stats.repliesFailed) ∧
      ((∀ x, .line x ∈ f.world.delivered → x.kind = .inform → x.name?.isSome) →
        m.informs.total = f.total (·.stats.informs)) ∧
      m.reconnects = (f.servers.map CmcServer.reconnects).sum ∧
      m.arraysPruned = f.suspects.length ∧ (∀ a ∈ f.suspects, a.isSuspect) ∧
      f.world.net.opened.length = f.channels.length + (f.servers.map CmcServer.reconnects).sum := by
  have hreach : ((empty net).run acts).Reachable := ⟨net, acts, rfl⟩
  have horder : ((empty net).run acts).InOrder := inOrder_run (inOrder_empty net) acts
  generalize (empty net).run acts = f at *
  dsimp only
  have hbooks := hreach.books_balance
  generalize (f.servers.map CmcServer.reconnects).sum = reopened at hbooks ⊢
  -- each law is the balance where one thing is worth one, and nothing else is worth anything
  refine ⟨fun role => ?_, ?_, fun hnamed => ?_, ?_, ?_, horder.suspect, ?_⟩
  · have hbalance := hbooks ⟨fun other => if other = role then 1 else 0, 0, 0, 0, 0, 0⟩
      fun _ _ _ => .inl rfl
    have hrole : (ChannelRole.all.map fun other =>
        (if other = role then 1 else 0) * f.world.metrics.sentBy other).sum =
          f.world.metrics.sentBy role := by
      cases role <;> simp [ChannelRole.all]
    unfold Weights.ofMetrics Weights.ofChannel at hbalance
    rw [hrole] at hbalance
    simpa [total] using hbalance
  · have hbalance := hbooks ⟨fun _ => 0, 1, 0, 0, 0, 0⟩ fun _ _ _ => .inl rfl
    unfold Weights.ofMetrics Weights.ofChannel at hbalance
    simpa [total] using hbalance
  · have hbalance := hbooks ⟨fun _ => 0, 0, 1, 0, 0, 0⟩
      fun x hx hkind => .inr (hnamed x hx hkind)
    unfold Weights.ofMetrics Weights.ofChannel at hbalance
    simpa [total] using hbalance
  · have hbalance := hbooks ⟨fun _ => 0, 0, 0, 1, 0, 0⟩ fun _ _ _ => .inl rfl
    unfold Weights.ofMetrics Weights.ofChannel at hbalance
    simpa using hbalance
  · have hbalance := hbooks ⟨fun _ => 0, 0, 0, 0, 1, 0⟩ fun _ _ _ => .inl rfl
    unfold Weights.ofMetrics Weights.ofChannel at hbalance
    simpa using hbalance
  · have hbalance := hbooks ⟨fun _ => 0, 0, 0, 0, 0, 1⟩ fun _ _ _ => .inl rfl
    unfold Weights.ofMetrics Weights.ofChannel at hbalance
    simp at hbalance
    exact_mod_cast hbalance

/-! ## A CMC that lists an array once -/

/-- A line comes from the CMC and is acted on, and what is to be sent is sent. -/
def hears (line : Message) : List (FleetAct ScriptedNetwork) :=
  [.remote fun net => net.modify 0 fun link => link.happen (.line line),
    .call 0 (.receive ⟨0⟩), .call 0 .flush]

/-- The CMC refuses a request once, and lists an array and then no array. At last the connection is
lost and opened again. -/
def listedOnce : List (FleetAct ScriptedNetwork) :=
  let config : Message := .request "client-config" ["info-all"]
  let alpha : Message := ⟨.inform, [CmcServer.arrayListName, "alpha", "7148,7149,g1,g2"]⟩
  .start "cmc" CmcServer.defaultPort ⟨[], defaultEnginesPerHost⟩ 0 ::
    .remote (fun net => net.modify 0 fun link => link.happen .connected) ::
    .call 0 (.receive ⟨0⟩) :: .call 0 .flush ::
    (hears CorrelatorArray.logOff.accept ++ hears ⟨.reply, ["client-config", "fail"]⟩ ++
      hears config.accept ++ hears alpha ++ hears CmcServer.arrayListRequest.accept ++
      [.call 0 .poll, .call 0 .flush] ++ hears CmcServer.arrayListRequest.accept ++
      [.remote fun net => net.modify 0 fun link => link.close "gone",
        .call 0 (.receive ⟨0⟩), .call 0 .reconnect])

/-- Whether an event is no inform without words. -/
def isNamed : LinkEvent → Bool
  | .line m => m.kind != .inform || m.name?.isSome
  | _ => true

theorem metrics_agree_listedOnce :
    let f := (empty ScriptedNetwork.empty).run listedOnce
    let m := f.world.metrics
    f.channels.length = 3 ∧ f.suspects.map CorrelatorArray.name = ["alpha"] ∧
      (m.sentBy .cmc, m.sentBy .control, m.sentBy .monitor) = (5, 1, 1) ∧
      m.requestFailures.total = 1 ∧ m.informs.total = 1 ∧ m.reconnects = 1 ∧
      m.arraysPruned = 1 := by
  intro f m
  obtain ⟨hsent, hfailed, hinforms, hreconnects, hpruned, -⟩ :=
    metrics_agree ScriptedNetwork.empty listedOnce
  have hnamed : ∀ x, .line x ∈ f.world.delivered → x.kind = .inform → x.name?.isSome := by
    intro x hx hkind
    have hall : f.world.delivered.all isNamed := by decide +kernel
    simpa [isNamed, hkind] using List.all_eq_true.1 hall _ hx
  have hroles : (m.sentBy .cmc, m.sentBy .control, m.sentBy .monitor) = (5, 1, 1) := by
    rw [hsent, hsent, hsent]
    decide +kernel
  exact ⟨by decide +kernel, by decide +kernel, hroles, hfailed.trans (by decide +kernel),
    (hinforms hnamed).trans (by decide +kernel), hreconnects.trans (by decide +kernel),
    hpruned.trans (by decide +kernel)⟩

end Fleet

end ArrayWatch
