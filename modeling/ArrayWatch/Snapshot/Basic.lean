import ArrayWatch.CmcServer.ArrayKey
import ArrayWatch.Snapshot.Ranking

/-!
# Snapshots

What the dashboard knows: everything about the CMCs, their channels and their arrays that is shown,
as it was at one moment.

* `Snapshot.length_ranked`: the ranking has one entry for each array.
-/

namespace ArrayWatch

/-! ## Views -/

/-- A channel as it is shown. -/
structure ChannelView where
  role : ChannelRole
  state : ChannelState
  peer : String
  inFlight : Option String
  queued : Nat
  stats : ChannelStats
  deriving DecidableEq, Repr, Inhabited

def ChannelView.ofChannel (c : Channel) : ChannelView :=
  ⟨c.role, c.state, c.link.peer, c.current.map Message.compose, c.queue.size, c.stats⟩

/-- An array as it is shown. -/
structure ArrayView where
  spec : Announcement
  cmcAddress : String
  liveness : Liveness
  isFunctional : Bool
  control : ChannelView
  monitor : ChannelView
  instrumentState : String
  configFile : String
  activations : Nat
  updatedAt : Option Timestamp
  sensors : List Sensor
  teams : List Team
  deriving DecidableEq, Repr, Inhabited

def ArrayView.ofArray (a : CorrelatorArray) : ArrayView :=
  ⟨a.spec, a.cmcAddress, a.liveness, a.isFunctional, .ofChannel a.control, .ofChannel a.monitor,
    a.instrumentState, a.configFile, a.activations, a.updatedAt, a.tree.top.sensors, a.tree.teams⟩

def ArrayView.name (a : ArrayView) : String := a.spec.name

/-- A CMC as it is shown, with its place counted from one. -/
structure CmcView where
  position : Nat
  address : String
  port : UInt16
  isConnected : Bool
  reconnects : Nat
  channel : ChannelView
  arrays : List ArrayView
  deriving DecidableEq, Repr, Inhabited

def CmcView.ofServer (position : Nat) (s : CmcServer) : CmcView :=
  ⟨position, s.address, s.port, s.isConnected, s.reconnects, .ofChannel s.channel,
    s.arrays.map .ofArray⟩

/-- An entry of the ranking. Ranks and places of CMCs are counted from one. -/
structure RankEntry where
  rank : Nat
  cmc : Nat
  name : String
  antennas : Nat
  deriving DecidableEq, Repr, Inhabited

def RankEntry.ofRanked (rank : Nat) (r : RankedArray) : RankEntry :=
  ⟨rank, r.cmc + 1, r.array.name, r.array.antennas⟩

/-- What is shown at one moment. -/
structure Snapshot where
  generatedAt : Timestamp
  cmcs : List CmcView
  ranked : List RankEntry
  deriving DecidableEq, Repr, Inhabited

namespace Snapshot

/-- A snapshot without CMCs. -/
def empty (now : Timestamp) : Snapshot := ⟨now, [], []⟩

def ofServers (now : Timestamp) (servers : List CmcServer) : Snapshot :=
  ⟨now, servers.zipIdx.map fun (server, i) => .ofServer (i + 1) server,
    (RankedArray.ranking servers).zipIdx.map fun (ranked, i) => .ofRanked (i + 1) ranked⟩

theorem length_ranked (now : Timestamp) (servers : List CmcServer) :
    (ofServers now servers).ranked.length = (servers.flatMap CmcServer.arrays).length := by
  have h : ∀ (l : List CmcServer) (k : Nat),
      ((l.zipIdx k).flatMap fun (server, cmc) => server.arrays.map (RankedArray.mk cmc)).length =
        (l.flatMap CmcServer.arrays).length := by
    intro l
    induction l with
    | nil => intro k; rfl
    | cons s rest ih =>
      intro k
      rw [List.zipIdx_cons, List.flatMap_cons, List.flatMap_cons, List.length_append,
        List.length_append, ih, List.length_map]
  simp only [ofServers, RankedArray.ranking, RankedArray.ofServers, List.length_map,
    List.length_zipIdx, List.length_mergeSort, h]

/-! ## Lookups -/

/-- The item at a place that is counted from one. -/
def atPlace? {α : Type} (items : List α) : Nat → Option α
  | 0 => none
  | i + 1 => items[i]?

/-- The CMC at a place. -/
def cmc? (s : Snapshot) (position : Nat) : Option CmcView :=
  atPlace? s.cmcs position

/-- The array of a CMC that a text leads to. -/
def array? (s : Snapshot) (cmc : Nat) (key : String) : Option ArrayView :=
  (s.cmc? cmc).bind fun view => (ArrayKey.parse key).find? ArrayView.name view.arrays

/-- The array at a rank. -/
def rankedArray? (s : Snapshot) (rank : Nat) : Option ArrayView :=
  (atPlace? s.ranked rank).bind fun entry =>
    (s.cmc? entry.cmc).bind fun view => Keyed.get? ArrayView.name entry.name view.arrays

def arrayCount (s : Snapshot) : Nat := s.ranked.length

/-- The role and the state of every channel: for each CMC its own, then those of its arrays. -/
def channelStates (s : Snapshot) : List (ChannelRole × ChannelState) :=
  s.cmcs.flatMap fun cmc => (.cmc, cmc.channel.state) ::
    cmc.arrays.flatMap fun a => [(.control, a.control.state), (.monitor, a.monitor.state)]

end Snapshot

end ArrayWatch
