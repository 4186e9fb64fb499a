import ArrayWatch.Proofs.ArrayRanking
import ArrayWatch.Proofs.FleetBooks
import ArrayWatch.Proofs.Gauges
import ArrayWatch.Proofs.Reconnection
import Mathlib.Algebra.BigOperators.Ring.Finset

/-!
# Gauges and live channels

A snapshot takes down a role and a state for every channel, the role by the place that the channel
has. The channels of a CMC and of its arrays have the roles of their places, so what is published
counts the live channels: every channel is in one state, and each of the states has a label.

* `CmcServer.InPlace`: the channels of a CMC have the roles of their places.
* `Snapshot.channelStates_eq`: what a snapshot takes down of the channels.
* `CmcServer.countP_role`: how many channels of a role there are.
* `Monitor.publish_conserves`: the gauges after publishing, and what they add up to.
-/

namespace ArrayWatch

/-! ## Roles -/

/-- Every channel serves the connection that its place is for. -/
structure CmcServer.InPlace (s : CmcServer) : Prop where
  channel : s.channel.role = .cmc
  arrays : ∀ a ∈ s.arrays, a.OnChannels (·.role = .control) (·.role = .monitor)

theorem Channel.Moves.role {ν : Type} [Network ν] {c c' : Channel} (h : c.Moves ν c') :
    c'.role = c.role := by
  cases h with
  | stay => rfl
  | push m => exact c.role_push m
  | read net => exact c.role_read net
  | flush w => exact c.role_flush w

namespace CmcMoment

variable {ν : Type} [Network ν] {m m' : CmcMoment ν}

theorem role_step? {act : CmcAct ν} (h : m.step? act = some m') :
    m'.server.channel.role = m.server.channel.role := by
  obtain ⟨-, ⟨-, hmoves⟩ | ⟨rfl, -⟩⟩ := server_step? h
  · exact hmoves.role
  · obtain ⟨-, rfl⟩ := step?_reconnect.1 h
    dsimp only [CmcServer.reconnect]
    split <;> rfl

theorem role_of_reachable (h : m.Reachable) : m.server.channel.role = .cmc := by
  obtain ⟨address, port, plan, maxRetries, net, metrics, acts, hrun⟩ := h
  exact run?_keeps (P := fun m => m.server.channel.role = .cmc)
    (fun _ _ _ hstep hrole => (role_step? hstep).trans hrole) hrun rfl

theorem inPlace_of_reachable (h : m.Reachable) : m.server.InPlace where
  channel := role_of_reachable h
  arrays := arrays_of_reachable h (fun _ _ _ _ _ => ⟨rfl, rfl⟩) fun _ _ hstep ha =>
    ha.ownStep (Channel.stays_role _) (Channel.stays_role _) hstep

end CmcMoment

theorem CmcServer.IsReached.inPlace {ν : Type} [Network ν] {s : CmcServer} (h : s.IsReached ν) :
    s.InPlace := by
  obtain ⟨m, hreach, rfl⟩ := h
  exact CmcMoment.inPlace_of_reachable hreach

/-! ## What is taken down -/

theorem CorrelatorArray.OnChannels.map_channels {a : CorrelatorArray}
    (h : a.OnChannels (·.role = .control) (·.role = .monitor)) :
    a.channels.map (fun c => (c.role, c.state)) =
      [(.control, a.control.state), (.monitor, a.monitor.state)] := by
  simp [channels, h.control, h.monitor]

theorem CmcServer.InPlace.map_channels {s : CmcServer} (h : s.InPlace) :
    s.channels.map (fun c => (c.role, c.state)) = (.cmc, s.channel.state) ::
      s.arrays.flatMap fun a => [(.control, a.control.state), (.monitor, a.monitor.state)] := by
  rw [channels, List.map_cons, h.channel, List.map_flatMap]
  refine congrArg _ (List.flatMap_congr fun a ha => ?_)
  exact (h.arrays a ha).map_channels

/-- A snapshot takes down the role and the state of every live channel. -/
theorem Snapshot.channelStates_eq {servers : List CmcServer} (h : ∀ s ∈ servers, s.InPlace)
    (now : Timestamp) : (ofServers now servers).channelStates =
      (servers.flatMap CmcServer.channels).map fun c => (c.role, c.state) := by
  have hplaces : servers = servers.zipIdx.map Prod.fst := (List.zipIdx_map_fst 0 servers).symm
  rw [List.map_flatMap, List.flatMap_congr fun s hs => (h s hs).map_channels]
  conv => rhs; rw [hplaces]
  simp only [channelStates, ofServers, List.flatMap_map, CmcView.ofServer, ChannelView.ofChannel,
    ArrayView.ofArray]

/-! ## Counts -/

section Counts

variable (channels : List Channel) (role : ChannelRole)

theorem Channel.count_map_states (state : ChannelState) :
    (channels.map fun c => (c.role, c.state)).count (role, state) =
      channels.countP fun c => c.role = role ∧ c.state = state := by
  rw [List.count_eq_countP, List.countP_map]
  refine List.countP_congr fun c _ => ?_
  simp

/-- Every channel is in one state. -/
theorem Channel.sum_countP_states :
    (ChannelState.all.map fun state =>
      channels.countP fun c => c.role = role ∧ c.state = state).sum =
      channels.countP fun c => c.role = role := by
  induction channels with
  | nil => rfl
  | cons c rest ih =>
    simp only [ChannelState.all, List.map_cons, List.map_nil, List.sum_cons, List.sum_nil,
      List.countP_cons] at ih ⊢
    rw [← ih]
    by_cases hrole : c.role = role
    · cases hstate : c.state <;> simp [hrole] <;> omega
    · simp [hrole]

end Counts

/-- A CMC has one channel of its own, and two for each array. -/
theorem CmcServer.InPlace.countP_role {s : CmcServer} (h : s.InPlace) (role : ChannelRole) :
    (s.channels.countP fun c => c.role = role) = if role = .cmc then 1 else s.arrays.length := by
  have harray : ∀ a ∈ s.arrays, (a.channels.countP fun c => c.role = role) =
      if role = .cmc then 0 else 1 := by
    intro a ha
    simp only [CorrelatorArray.channels, List.countP_cons, List.countP_nil, (h.arrays a ha).control,
      (h.arrays a ha).monitor]
    cases role <;> rfl
  have harrays : (s.arrays.map ((List.countP fun c => c.role = role) ∘ CorrelatorArray.channels)) =
      s.arrays.map fun _ => if role = .cmc then 0 else 1 :=
    List.map_congr_left harray
  rw [channels, List.countP_cons, h.channel, List.countP_flatMap, harrays]
  cases role <;> simp

/-- So many channels of a role there are: one for each CMC, or one for each array. -/
theorem CmcServer.countP_role {servers : List CmcServer} (h : ∀ s ∈ servers, s.InPlace)
    (role : ChannelRole) :
    ((servers.flatMap CmcServer.channels).countP fun c => c.role = role) =
      if role = .cmc then servers.length else (servers.flatMap CmcServer.arrays).length := by
  have hservers : (servers.map ((List.countP fun c => c.role = role) ∘ CmcServer.channels)) =
      servers.map fun s => if role = .cmc then 1 else s.arrays.length :=
    List.map_congr_left fun s hs => (h s hs).countP_role role
  rw [List.countP_flatMap, hservers, List.length_flatMap]
  cases role <;> simp

/-! ## What is published -/

section Shown

variable {servers : List CmcServer} {now : Timestamp} {metrics : Metrics}

theorem Metrics.Shows.state (h : metrics.Shows (.ofServers now servers))
    (hplaces : ∀ s ∈ servers, s.InPlace) (role : ChannelRole) (state : ChannelState) :
    metrics.channelState.value [role.word, state.word] =
      (servers.flatMap CmcServer.channels).countP fun c => c.role = role ∧ c.state = state := by
  have hcount := h.states (role, state)
  rw [Snapshot.channelStates_eq hplaces, Channel.count_map_states] at hcount
  exact hcount

/-- The labels are the words for the states, so that no channel is left out of the sum. -/
theorem Metrics.Shows.sum_states (h : metrics.Shows (.ofServers now servers))
    (hplaces : ∀ s ∈ servers, s.InPlace) (role : ChannelRole) :
    (channelStates.map fun label => metrics.channelState.value [role.word, label]).sum =
      (servers.flatMap CmcServer.channels).countP fun c => c.role = role := by
  have hlabels : channelStates = ChannelState.all.map ChannelState.word := by decide
  have hstates : (ChannelState.all.map fun state =>
      metrics.channelState.value [role.word, state.word]) =
      (ChannelState.all.map fun state => (servers.flatMap CmcServer.channels).countP
        fun c => c.role = role ∧ c.state = state).map Nat.cast := by
    rw [List.map_map]
    exact List.map_congr_left fun state _ => h.state hplaces role state
  rw [hlabels, List.map_map]
  exact (congrArg List.sum hstates).trans (by rw [← Nat.cast_list_sum, Channel.sum_countP_states])

theorem Metrics.Shows.up (h : metrics.Shows (.ofServers now servers))
    (hplaces : ∀ s ∈ servers, s.InPlace) (role : ChannelRole) :
    metrics.channelsConnected.value [role.word] =
      (servers.flatMap CmcServer.channels).countP fun c =>
        c.role = role ∧ ¬ c.isDisconnected := by
  rw [h.connected, Snapshot.channelStates_eq hplaces, List.countP_map]
  refine congrArg Nat.cast (List.countP_congr fun c _ => ?_)
  simp [Channel.isDisconnected]

end Shown

namespace Monitor

/-- Whatever the gauges were before, publishing makes them count the live channels by role and by
state. Over the labels of the states they add up to the number of channels of the role: one for each
CMC, or one for each array. -/
theorem publish_conserves {ν μ : Type} [Network ν] {m : Monitor}
    (hreach : ∀ s ∈ m.servers, s.IsReached ν) (now : Timestamp) (w : World μ) :
    let metrics := (m.publish now w).2.metrics
    let channels := m.servers.flatMap CmcServer.channels
    let arrays := m.servers.flatMap CmcServer.arrays
    (∀ (role : ChannelRole) (state : ChannelState),
        metrics.channelState.value [role.word, state.word] =
          channels.countP fun c => c.role = role ∧ c.state = state) ∧
      (∀ role : ChannelRole,
        (Metrics.channelStates.map fun label =>
          metrics.channelState.value [role.word, label]).sum =
            channels.countP fun c => c.role = role) ∧
      (∀ role : ChannelRole, (channels.countP fun c => c.role = role) =
        if role = .cmc then m.servers.length else arrays.length) ∧
      (∀ role : ChannelRole, metrics.channelsConnected.value [role.word] =
        channels.countP fun c => c.role = role ∧ ¬ c.isDisconnected) ∧
      metrics.arrays = arrays.length := by
  intro metrics channels arrays
  have hplaces : ∀ s ∈ m.servers, s.InPlace := fun s hs => (hreach s hs).inPlace
  have hshows : metrics.Shows (.ofServers now m.servers) := Metrics.shows_setGauges _ _
  refine ⟨hshows.state hplaces, hshows.sum_states hplaces, CmcServer.countP_role hplaces,
    hshows.up hplaces, ?_⟩
  rw [hshows.arrays, Snapshot.arrayCount, Snapshot.length_ranked]

/-- Two CMCs with three arrays, one of the CMCs lost. The gauges had other values. -/
theorem publish_conserves_lost :
    let servers := [Snapshot.firstCmc.server, CmcMoment.lostIdle.server]
    let before := (Metrics.zero.setArrays 9).setChannelStates "cmc" [("wait_connect", 5)]
    let metrics := ((Monitor.mk default servers default true).publish ⟨0⟩
      (World.mk () before)).2.metrics
    (∀ s ∈ servers, s.IsReached ScriptedNetwork) ∧
      metrics.channelState.value ["cmc", "disconnected"] = 1 ∧
      metrics.channelState.value ["cmc", "wait_connect"] = 0 ∧
      metrics.channelState.value ["monitor", "send_front_of_queue"] = 3 ∧
      metrics.channelsConnected.value ["cmc"] = 1 ∧ metrics.arrays = 3 := by
  intro servers before metrics
  have hreach : ∀ s ∈ servers, s.IsReached ScriptedNetwork := by
    intro s hs
    rcases List.mem_pair.1 hs with rfl | rfl
    · exact Snapshot.reached_of_announces (Option.some_get _).symm
    · exact ⟨_, CmcMoment.reachable_lostIdle, rfl⟩
  let m : Monitor := ⟨default, servers, default, true⟩
  obtain ⟨hstate, -, -, hconnected, harrays⟩ :=
    publish_conserves (m := m) hreach ⟨0⟩ (World.mk () before)
  refine ⟨hreach, (hstate .cmc .disconnected).trans ?_, (hstate .cmc .waitConnect).trans ?_,
    (hstate .monitor .sendFrontOfQueue).trans ?_, (hconnected .cmc).trans ?_,
    harrays.trans ?_⟩
  all_goals decide +kernel

end Monitor

end ArrayWatch
