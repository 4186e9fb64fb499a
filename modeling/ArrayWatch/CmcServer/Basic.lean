import ArrayWatch.CorrelatorArray.Basic

/-!
# CMC servers

A CMC lists the arrays that it runs. Before the list is asked for, every array is marked suspect;
each announcement in the list marks its array fine again or brings a new one; the reply that ends
the list removes the arrays that are still suspect.

* `CmcServer.insertArray` keeps the arrays in the order of their names: `mem_insertArray` and
  `pairwise_insertArray`.
-/

namespace ArrayWatch

/-- A CMC with its arrays, in the order of their names. -/
structure CmcServer where
  address : String
  port : UInt16
  channel : Channel
  arrays : List CorrelatorArray
  plan : Plan
  maxRetries : UInt32
  /-- How often the connection has been opened again. -/
  reconnects : Nat
  deriving DecidableEq, Repr, Inhabited

namespace CmcServer

/-! ## Names on the wire -/

/-- The port of a CMC, unless another is given. -/
def defaultPort : UInt16 := 7147

/-- The request for the list of arrays, the informs that it consists of, and the reply that ends
it. -/
def arrayListName : String := "array-list"

def arrayListRequest : Message := .request arrayListName []

/-- The first requests on a connection. -/
def seed : List Message :=
  [CorrelatorArray.logOff, .request "client-config" ["info-all"], arrayListRequest]

/-! ## State -/

/-- A CMC that is being connected to. -/
def ofLink (address : String) (port : UInt16) (plan : Plan) (maxRetries : UInt32) (link : Link) :
    CmcServer :=
  ⟨address, port, .connecting .cmc link seed maxRetries, [], plan, maxRetries, 0⟩

/-- Whether the connection is up. -/
def isConnected (s : CmcServer) : Bool :=
  s.channel.state != .waitConnect && s.channel.state != .disconnected

/-- The array with a name. -/
def array? (s : CmcServer) (name : String) : Option CorrelatorArray :=
  Keyed.get? CorrelatorArray.name name s.arrays

/-! ## The list of arrays -/

/-- Asks for the list of arrays. Until it comes, every array is suspect. A CMC that is not connected
is not asked. -/
def pollArrayList (s : CmcServer) : CmcServer :=
  if s.isConnected then
    { s with
      arrays := s.arrays.map .markSuspect
      channel := s.channel.push arrayListRequest }
  else s

/-- Puts an array in its place by name, after those of the same name. -/
def insertArray (a : CorrelatorArray) : List CorrelatorArray → List CorrelatorArray
  | [] => [a]
  | b :: rest => if a.name < b.name then a :: b :: rest else b :: insertArray a rest

/-- Marks the array with a name as listed. -/
def confirmArray (s : CmcServer) (name : String) : CmcServer :=
  { s with arrays := s.arrays.map fun a => if a.name = name then a.markFine else a }

/-- Drops the arrays that never came up. -/
def dropUnopened (s : CmcServer) : CmcServer :=
  { s with arrays := s.arrays.filter (!·.failedToOpen) }

/-- Drops the arrays that the list did not name, and counts them. -/
def pruneSuspects (s : CmcServer) : CmcServer × Nat :=
  ({ s with arrays := s.arrays.filter (!·.isSuspect) }, s.arrays.countP CorrelatorArray.isSuspect)

theorem mem_insertArray {a b : CorrelatorArray} {arrays : List CorrelatorArray} :
    b ∈ insertArray a arrays ↔ b = a ∨ b ∈ arrays := by
  induction arrays with
  | nil => simp [insertArray]
  | cons c rest ih =>
    unfold insertArray
    split
    · simp
    · simp [ih, or_left_comm]

theorem pairwise_insertArray {a : CorrelatorArray} {arrays : List CorrelatorArray}
    (hsorted : arrays.Pairwise fun b c => b.name < c.name) (hnew : ∀ b ∈ arrays, b.name ≠ a.name) :
    (insertArray a arrays).Pairwise fun b c => b.name < c.name := by
  induction arrays with
  | nil => simp [insertArray]
  | cons b rest ih =>
    obtain ⟨hb, hrest⟩ := List.pairwise_cons.1 hsorted
    unfold insertArray
    split
    · rename_i hlt
      refine List.pairwise_cons.2 ⟨fun c hc => ?_, hsorted⟩
      rcases List.mem_cons.1 hc with rfl | hc
      · exact hlt
      · exact String.lt_trans hlt (hb c hc)
    · rename_i hlt
      refine List.pairwise_cons.2 ⟨fun c hc => ?_, ih hrest fun c hc => hnew c (by simp [hc])⟩
      rcases mem_insertArray.1 hc with rfl | hc
      · apply Decidable.byContradiction
        intro h
        exact hnew b (by simp) (String.le_antisymm (String.not_lt.1 hlt) (String.not_lt.1 h))
      · exact hb c hc

/-! ## Descriptions -/

def describe (s : CmcServer) : String :=
  Text.describeRecord "CmcServer"
    [("address", Text.quoted s.address), ("port", toString s.port),
      ("state", s.channel.state.describe),
      ("arrays", Text.describeList (s.arrays.map CorrelatorArray.describe))]

end CmcServer

end ArrayWatch
