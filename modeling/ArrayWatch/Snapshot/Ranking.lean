import ArrayWatch.CmcServer.Basic

/-!
# Ranking of arrays

The arrays of all CMCs by their number of antennas, the largest first. Arrays of one size keep the
order of their CMCs, and within a CMC the order of their names.

* `mem_ranking`: the ranking has every array of every CMC and no other.
-/

namespace ArrayWatch

/-- An array, and the place of its CMC, counted from zero. -/
structure RankedArray where
  cmc : Nat
  array : CorrelatorArray
  deriving DecidableEq, Repr, Inhabited

namespace RankedArray

/-- The arrays of all CMCs, CMC by CMC. -/
def ofServers (servers : List CmcServer) : List RankedArray :=
  servers.zipIdx.flatMap fun (server, cmc) => server.arrays.map (⟨cmc, ·⟩)

/-- The arrays of all CMCs by their size. -/
def ranking (servers : List CmcServer) : List RankedArray :=
  (ofServers servers).mergeSort fun a b => decide (b.array.antennas ≤ a.array.antennas)

theorem mem_ranking {servers : List CmcServer} {r : RankedArray} :
    r ∈ ranking servers ↔ ∃ server, servers[r.cmc]? = some server ∧ r.array ∈ server.arrays := by
  unfold ranking ofServers
  rw [List.mem_mergeSort]
  simp only [List.mem_flatMap, List.mem_map, Prod.exists, List.mem_zipIdx_iff_getElem?]
  constructor
  · rintro ⟨server, cmc, hserver, a, ha, rfl⟩
    exact ⟨server, hserver, ha⟩
  · rintro ⟨server, hserver, ha⟩
    exact ⟨server, r.cmc, hserver, r.array, ha, rfl⟩

end RankedArray

end ArrayWatch
