import ArrayWatch.Monitor.Basic
import ArrayWatch.Proofs.MetricSeries

/-!
# Gauges that show a snapshot

Setting the gauges makes them those of a snapshot, whatever they were before: the number of arrays,
the number of channels of each role in each state, and the number of channels of each role that are
not disconnected.

* `Metrics.Shows`: what the gauges of a snapshot are.
* `Snapshot.countOf_stateCounts`: the number that is looked up for a state is that of its channels.
* `Metrics.shows_setGauges`: the gauges after they were set.
-/

namespace ArrayWatch

/-- The gauges are those of a snapshot. -/
structure Metrics.Shows (m : Metrics) (s : Snapshot) : Prop where
  arrays : m.arrays = s.arrayCount
  states : ∀ c, m.channelState.value (ChannelState.labels c) = s.channelStates.count c
  connected : ∀ role, m.channelsConnected.value [role.word] =
    s.channelStates.countP fun c => c.1 = role ∧ c.2 ≠ .disconnected

namespace Snapshot

/-- The counts of a role are looked up by the words for the states, and no two states share one. -/
theorem countOf_stateCounts (s : Snapshot) (c : ChannelRole × ChannelState) :
    Metrics.countOf c.2.word (s.stateCounts c.1) = s.channelStates.count c := by
  obtain ⟨role, state⟩ := c
  rw [List.count_eq_length_filter]
  cases state <;>
    simp [Metrics.countOf, stateCounts, ChannelState.all, ChannelState.word, Metrics.total]

/-- A channel that is not disconnected is in one of the four other states. -/
theorem countP_connected (states : List (ChannelRole × ChannelState)) (role : ChannelRole) :
    (states.countP fun c => c.1 = role ∧ c.2 ≠ .disconnected) =
      states.count (role, .waitConnect) + states.count (role, .sendFrontOfQueue) +
        states.count (role, .waitResponse) + states.count (role, .monitor) := by
  induction states with
  | nil => rfl
  | cons c rest ih =>
    obtain ⟨other, state⟩ := c
    rw [List.countP_cons, ih]
    by_cases hrole : other = role
    · subst hrole
      cases state <;> simp <;> omega
    · have hne (state' : ChannelState) : (rest.count (role, state')) =
          ((other, state) :: rest).count (role, state') := by
        simp [hrole]
      simp [hrole, ← hne]

/-- The sum that is shown as connected. -/
theorem total_connected (s : Snapshot) (role : ChannelRole) :
    Metrics.total ((Metrics.channelStates.filter (· != "disconnected")).map
        (Metrics.countOf · (s.stateCounts role))) =
      (s.channelStates.countP fun c => c.1 = role ∧ c.2 ≠ .disconnected : Nat) := by
  have hwords : Metrics.channelStates.filter (· != "disconnected") =
      [ChannelState.waitConnect, .sendFrontOfQueue, .waitResponse, .monitor].map ChannelState.word := by
    decide
  have hcount (state : ChannelState) := s.countOf_stateCounts (role, state)
  rw [hwords, countP_connected]
  simp only [List.map_cons, List.map_nil, hcount, Metrics.total, List.foldl_cons, List.foldl_nil]
  omega

end Snapshot

namespace Metrics

theorem channelState_setGauges (m : Metrics) (s : Snapshot) :
    (m.setGauges s).channelState = ChannelState.ofRoles.foldl (fun series c =>
      series.set (ChannelState.labels c) (countOf c.2.word (s.stateCounts c.1))) m.channelState :=
  rfl

theorem channelsConnected_setGauges (m : Metrics) (s : Snapshot) :
    (m.setGauges s).channelsConnected = ChannelRole.all.foldl (fun series role =>
      series.set [role.word] (total ((channelStates.filter (· != "disconnected")).map
        (countOf · (s.stateCounts role))))) m.channelsConnected :=
  rfl

/-- Whatever the gauges were before, they are those of the snapshot that they are set to. -/
theorem shows_setGauges (m : Metrics) (s : Snapshot) : (m.setGauges s).Shows s := by
  refine ⟨rfl, fun c => ?_, fun role => ?_⟩
  · rw [channelState_setGauges, ← s.countOf_stateCounts]
    exact Series.value_foldl_set ChannelState.digest_inj (ChannelState.mem_ofRoles c) _
  · have hrole : role ∈ ChannelRole.all := by cases role <;> decide
    rw [channelsConnected_setGauges, ← s.total_connected]
    exact Series.value_foldl_set ChannelRole.digest_inj hrole _

end Metrics

end ArrayWatch
