import ArrayWatch.Proofs.ArrayList
import ArrayWatch.Proofs.KeyedTables
import ArrayWatch.Snapshot.Basic
import Mathlib.Data.List.Nodup

/-!
# The ranking of a snapshot

A snapshot ranks the arrays of all CMCs and keeps only their names. An array is found again by the
place of its CMC and by its name, which leads to one array because no two arrays of a CMC have one
name. The sort is stable, and the arrays come to it CMC by CMC and in the order of their names, so
that this order decides between arrays of one size.

* `pairwise_mergeSort_of_ties`: what a stable sort keeps between items that tie.
* `RankedArray.before_ranking`: the order of the ranking.
* `ArrayKey.find?_eq_get?`: a key that is no place leads to the array of this name.
* `Snapshot.ranking_exact`: the ranking, and what its entries lead to.
-/

namespace ArrayWatch

/-! ## Stable sorts -/

/-- Items that tie stay in a relation that held between each item and the later ones. -/
theorem pairwise_mergeSort_of_ties {α : Type} {R : α → α → Prop} (le : α → α → Bool)
    (htrans : ∀ a b c, le a b → le b c → le a c) (htotal : ∀ a b, le a b || le b a)
    {items : List α} (h : items.Pairwise R) :
    (items.mergeSort le).Pairwise fun a b => le a b ∧ (le b a → R a b) := by
  let numbered := items.zipIdx.mergeSort (List.zipIdxLE le)
  have hsorted : numbered.Pairwise fun a b => List.zipIdxLE le a b :=
    List.pairwise_mergeSort (List.zipIdxLE_trans htrans) (List.zipIdxLE_total htotal) _
  have hperm : numbered.Perm items.zipIdx := List.mergeSort_perm _ _
  have hnumbers : (numbered.map Prod.snd).Nodup := by
    rw [(hperm.map Prod.snd).nodup_iff, List.zipIdx_map_snd]
    exact List.nodup_range'
  have hapart : numbered.Pairwise fun a b => a.2 ≠ b.2 := List.pairwise_map.1 hnumbers
  have hplace : ∀ a ∈ numbered, items[a.2]? = some a.1 := fun a ha =>
    List.mem_zipIdx_iff_getElem?.1 (hperm.mem_iff.1 ha)
  rw [← List.mergeSort_zipIdx, List.pairwise_map]
  refine (hsorted.and hapart).imp_of_mem fun {a b} ha hb hab => ?_
  obtain ⟨hle, hne⟩ := hab
  unfold List.zipIdxLE at hle
  by_cases hfirst : le a.1 b.1
  · refine ⟨hfirst, fun htie => ?_⟩
    -- of two items that tie the one with the smaller number comes first
    have hlt : a.2 < b.2 := by
      have hnumber : a.2 ≤ b.2 := by simpa [hfirst, htie] using hle
      omega
    obtain ⟨hia, hga⟩ := List.getElem?_eq_some_iff.1 (hplace a ha)
    obtain ⟨hib, hgb⟩ := List.getElem?_eq_some_iff.1 (hplace b hb)
    rw [← hga, ← hgb]
    exact List.pairwise_iff_getElem.1 h a.2 b.2 hia hib hlt
  · simp [hfirst] at hle

/-! ## Names and keys -/

/-- The server of a moment that a run leads to. -/
def CmcServer.IsReached (ν : Type) [Network ν] (s : CmcServer) : Prop :=
  ∃ m : CmcMoment ν, m.Reachable ∧ m.server = s

theorem CmcServer.IsReached.sorted {ν : Type} [Network ν] {s : CmcServer} (h : s.IsReached ν) :
    s.arrays.Pairwise fun a b => a.name < b.name := by
  obtain ⟨m, hreach, rfl⟩ := h
  exact List.pairwise_map.1 (CmcMoment.sorted_of_reachable hreach)

/-- A key that stands for a place. -/
def ArrayKey.AllDigits (text : String) : Prop :=
  text ≠ "" ∧ ∀ c ∈ text.toList, c.isDigit

theorem ArrayKey.parse_of_not_allDigits {text : String} (h : ¬ AllDigits text) :
    parse text = .name text := by
  have hnone : Decimal.digits? Decimal.word64 text.toList = none := by
    unfold Decimal.digits?
    refine if_pos ?_
    rw [AllDigits, not_and_or, not_not] at h
    rcases h with hempty | hother
    · simp [hempty]
    · obtain ⟨c, hc, hdigit⟩ : ∃ c ∈ text.toList, c.isDigit ≠ true := by simpa using hother
      simpa using .inr ⟨c, hc, by simpa using hdigit⟩
  simp [parse, hnone]

/-- A name leads to the first item that has it. -/
theorem ArrayKey.find?_eq_get? {α : Type} (nameOf : α → String) (text : String)
    (items : List α) : (name text).find? nameOf items = Keyed.get? nameOf text items := by
  show ((items.map nameOf).findIdx? (· == text)).bind (items[·]?) = _
  rw [List.findIdx?_map, Keyed.get?, List.find?_eq_bind_findIdx?_getElem?]
  rfl

/-! ## The order of the ranking -/

namespace RankedArray

/-- The order in which the arrays come to the sort: by the places of their CMCs, and for each CMC by
their names. -/
def Precedes (a b : RankedArray) : Prop :=
  a.cmc < b.cmc ∨ a.cmc = b.cmc ∧ a.array.name < b.array.name

theorem precedes_ofServers {servers : List CmcServer}
    (hsorted : ∀ s ∈ servers, s.arrays.Pairwise fun a b => a.name < b.name) :
    (ofServers servers).Pairwise Precedes := by
  unfold ofServers
  refine List.pairwise_flatMap.2 ⟨fun numbered hmem => ?_, ?_⟩
  · have hserver := List.fst_mem_of_mem_zipIdx hmem
    exact List.pairwise_map.2 ((hsorted _ hserver).imp fun hlt => .inr ⟨rfl, hlt⟩)
  · have hplaces : servers.zipIdx.Pairwise fun a b => a.2 < b.2 := by
      rw [← List.pairwise_map, List.zipIdx_map_snd]
      exact List.pairwise_lt_range'
    refine hplaces.imp fun hlt a ha b hb => ?_
    obtain ⟨x, -, rfl⟩ := List.mem_map.1 ha
    obtain ⟨y, -, rfl⟩ := List.mem_map.1 hb
    exact .inl hlt

/-- The larger array comes first, and of two arrays of one size the one that came first to the
sort. -/
theorem before_ranking {servers : List CmcServer}
    (hsorted : ∀ s ∈ servers, s.arrays.Pairwise fun a b => a.name < b.name) :
    (ranking servers).Pairwise fun a b => b.array.antennas < a.array.antennas ∨
      b.array.antennas = a.array.antennas ∧ a.Precedes b := by
  have hstable := pairwise_mergeSort_of_ties
    (fun a b : RankedArray => decide (b.array.antennas ≤ a.array.antennas))
    (fun a b c hab hbc => by simp only [decide_eq_true_eq] at *; omega)
    (fun a b => by simp only [Bool.or_eq_true, decide_eq_true_eq]; omega)
    (precedes_ofServers hsorted)
  refine hstable.imp fun {a b} hab => ?_
  simp only [decide_eq_true_eq] at hab
  obtain ⟨hle, hties⟩ := hab
  rcases Nat.lt_or_eq_of_le hle with hlt | heq
  · exact .inl hlt
  · exact .inr ⟨heq, hties (by omega)⟩

/-- All that an entry shows of an array: the place of its CMC, its name and its size. -/
def shown (r : RankedArray) : Nat × String × Nat := (r.cmc, r.array.name, r.array.antennas)

/-- What is shown of the arrays is enough to sort them. -/
theorem map_shown_ranking (servers : List CmcServer) :
    (ranking servers).map shown =
      ((ofServers servers).map shown).mergeSort fun a b => decide (b.2.2 ≤ a.2.2) :=
  List.map_mergeSort fun _ _ _ _ => rfl

/-- No two entries are for one name of one CMC. -/
theorem nodup_ranking {servers : List CmcServer}
    (hsorted : ∀ s ∈ servers, s.arrays.Pairwise fun a b => a.name < b.name) :
    ((ranking servers).map fun r => (r.cmc + 1, r.array.name)).Nodup := by
  have hperm : (ranking servers).Perm (ofServers servers) := List.mergeSort_perm _ _
  rw [(hperm.map _).nodup_iff]
  refine List.pairwise_map.2 ((precedes_ofServers hsorted).imp fun {a b} hab hsame => ?_)
  obtain ⟨hcmc, hname⟩ := Prod.mk.inj hsame
  rcases hab with hlt | ⟨-, hlt⟩
  · omega
  · exact String.ne_of_lt hlt hname

end RankedArray

/-- The order of the ranking, as its entries show it: the larger array first, of two arrays of one
size the one whose CMC comes first, and of two arrays of one CMC the one whose name has the smaller
bytes. -/
def RankEntry.Before (e f : RankEntry) : Prop :=
  f.antennas < e.antennas ∨ f.antennas = e.antennas ∧
    (e.cmc < f.cmc ∨ e.cmc = f.cmc ∧ nameBytes e.name < nameBytes f.name)

/-- An entry is for an array of the CMC at a place. -/
def RankEntry.Tells (e : RankEntry) (cmc : Nat) (a : CorrelatorArray) : Prop :=
  e.cmc = cmc ∧ e.name = a.name ∧ e.antennas = a.antennas

namespace Snapshot

/-- The array is one of the CMC at a place, counted from one. -/
def Tracks (servers : List CmcServer) (cmc : Nat) (a : CorrelatorArray) : Prop :=
  ∃ s, atPlace? servers cmc = some s ∧ a ∈ s.arrays

variable {servers : List CmcServer} {now : Timestamp}

/-! ## Entries -/

theorem ranked_eq (now : Timestamp) (servers : List CmcServer) :
    (ofServers now servers).ranked =
      (RankedArray.ranking servers).zipIdx.map fun r => .ofRanked (r.2 + 1) r.1 := rfl

theorem map_rank (now : Timestamp) (servers : List CmcServer) :
    (ofServers now servers).ranked.map RankEntry.rank =
      List.range' 1 (ofServers now servers).ranked.length := by
  have hranks : (ofServers now servers).ranked.map RankEntry.rank =
      ((RankedArray.ranking servers).zipIdx.map Prod.snd).map (1 + ·) := by
    rw [ranked_eq, List.map_map, List.map_map]
    exact List.map_congr_left fun r _ => Nat.add_comm r.2 1
  rw [hranks, List.zipIdx_map_snd, ranked_eq, List.length_map, List.length_zipIdx,
    List.map_add_range']

/-- An entry at a rank is for the array that the sort put there. -/
theorem atPlace?_ranked (now : Timestamp) (servers : List CmcServer) (i : Nat) :
    atPlace? (ofServers now servers).ranked (i + 1) =
      (RankedArray.ranking servers)[i]?.map (.ofRanked (i + 1)) := by
  show (ofServers now servers).ranked[i]? = _
  rw [ranked_eq, List.getElem?_map, List.getElem?_zipIdx, Option.map_map, Nat.zero_add]
  rfl

theorem nodup_ranked (hsorted : ∀ s ∈ servers, s.arrays.Pairwise fun a b => a.name < b.name) :
    ((ofServers now servers).ranked.map fun e => (e.cmc, e.name)).Nodup := by
  have hkeys : ((ofServers now servers).ranked.map fun e => (e.cmc, e.name)) =
      ((RankedArray.ranking servers).zipIdx.map Prod.fst).map
        fun r => (r.cmc + 1, r.array.name) := by
    rw [ranked_eq, List.map_map, List.map_map]
    rfl
  rw [hkeys, List.zipIdx_map_fst]
  exact RankedArray.nodup_ranking hsorted

theorem before_ranked (hsorted : ∀ s ∈ servers, s.arrays.Pairwise fun a b => a.name < b.name) :
    (ofServers now servers).ranked.Pairwise RankEntry.Before := by
  have horder := RankedArray.before_ranking hsorted
  rw [← List.zipIdx_map_fst 0 (RankedArray.ranking servers)] at horder
  rw [ranked_eq]
  refine List.pairwise_map.2 ((List.pairwise_map.1 horder).imp fun {a b} hab => ?_)
  rcases hab with hsize | ⟨hsize, hcmc | ⟨hcmc, hname⟩⟩
  · exact .inl hsize
  · exact .inr ⟨hsize, .inl (Nat.succ_lt_succ hcmc)⟩
  · exact .inr ⟨hsize, .inr ⟨congrArg (· + 1) hcmc, nameBytes_lt hname⟩⟩

/-! ## What entries lead to -/

/-- Among the views of a CMC a name leads to the array that has it. -/
theorem get?_views {s : CmcServer} (hsorted : s.arrays.Pairwise fun a b => a.name < b.name)
    {a : CorrelatorArray} (ha : a ∈ s.arrays) :
    Keyed.get? ArrayView.name a.name (s.arrays.map .ofArray) = some (.ofArray a) := by
  have hnames : (s.arrays.map ArrayView.ofArray).map ArrayView.name = s.names := by
    rw [List.map_map]
    rfl
  have hsound : Keyed.Sound ArrayView.name (fun _ => True) (s.arrays.map .ofArray) := by
    refine ⟨?_, fun _ _ => trivial⟩
    rw [hnames]
    exact List.pairwise_map.2 (hsorted.imp String.ne_of_lt)
  exact hsound.get?_eq_some_iff.2 ⟨List.mem_map_of_mem ha, rfl⟩

theorem cmc?_ofServers (now : Timestamp) (servers : List CmcServer) (i : Nat) :
    (ofServers now servers).cmc? (i + 1) = servers[i]?.map (.ofServer (i + 1)) := by
  show (ofServers now servers).cmcs[i]? = _
  unfold ofServers
  dsimp only
  rw [List.getElem?_map, List.getElem?_zipIdx, Option.map_map, Nat.zero_add]
  rfl

/-- The sort put an array at a place. Its rank leads to its view, and so does its name. -/
theorem lookups_of_ranking (now : Timestamp)
    (hsorted : ∀ s ∈ servers, s.arrays.Pairwise fun a b => a.name < b.name)
    {i : Nat} {r : RankedArray} (hr : (RankedArray.ranking servers)[i]? = some r) :
    Tracks servers (r.cmc + 1) r.array ∧
      (ofServers now servers).rankedArray? (i + 1) = some (.ofArray r.array) ∧
      (¬ ArrayKey.AllDigits r.array.name →
        (ofServers now servers).array? (r.cmc + 1) r.array.name = some (.ofArray r.array)) := by
  obtain ⟨s, hs, ha⟩ := RankedArray.mem_ranking.1 (List.mem_of_getElem? hr)
  have hview := get?_views (hsorted s (List.mem_of_getElem? hs)) ha
  have hcmc : (ofServers now servers).cmc? (r.cmc + 1) = some (.ofServer (r.cmc + 1) s) := by
    rw [cmc?_ofServers, hs]
    rfl
  refine ⟨⟨s, hs, ha⟩, ?_, fun hname => ?_⟩
  · have hentry : atPlace? (ofServers now servers).ranked (i + 1) = some (.ofRanked (i + 1) r) := by
      rw [atPlace?_ranked, hr]
      rfl
    rw [rankedArray?, hentry]
    show ((ofServers now servers).cmc? (r.cmc + 1)).bind _ = _
    rw [hcmc]
    exact hview
  · rw [array?, hcmc, ArrayKey.parse_of_not_allDigits hname, Option.bind_some,
      ArrayKey.find?_eq_get?]
    exact hview

/-- Every array of every CMC has one entry, and every entry is for an array: the ranks count from
one, the larger array comes first, and arrays of one size come in the order of their CMCs and of
their names. Just the ranks lead to an array, each to the view of the array that its entry is for,
and so does the name of the array in its CMC, unless it is a number. -/
theorem ranking_exact {ν : Type} [Network ν] {servers : List CmcServer}
    (hreach : ∀ s ∈ servers, s.IsReached ν) (now : Timestamp) :
    let shown := ofServers now servers
    shown.ranked.map RankEntry.rank = List.range' 1 shown.ranked.length ∧
      shown.ranked.Pairwise RankEntry.Before ∧
      (∀ cmc a, Tracks servers cmc a → ∃ e ∈ shown.ranked, e.Tells cmc a ∧
        ∀ e' ∈ shown.ranked, e'.cmc = cmc → e'.name = a.name → e' = e) ∧
      (∀ rank, (shown.rankedArray? rank).isSome ↔ 1 ≤ rank ∧ rank ≤ shown.ranked.length) ∧
      ∀ e ∈ shown.ranked, ∃ a, Tracks servers e.cmc a ∧ e.Tells e.cmc a ∧
        shown.rankedArray? e.rank = some (.ofArray a) ∧
        (¬ ArrayKey.AllDigits e.name → shown.array? e.cmc e.name = some (.ofArray a)) := by
  intro shown
  have hsorted : ∀ s ∈ servers, s.arrays.Pairwise fun a b => a.name < b.name :=
    fun s hs => (hreach s hs).sorted
  have hlength : shown.ranked.length = (RankedArray.ranking servers).length := by
    rw [ranked_eq, List.length_map, List.length_zipIdx]
  refine ⟨map_rank now servers, before_ranked hsorted, ?_, ?_, ?_⟩
  · rintro cmc a ⟨s, hs, ha⟩
    obtain ⟨i, rfl⟩ : ∃ i, cmc = i + 1 := by
      cases cmc with
      | zero => contradiction
      | succ i => exact ⟨i, rfl⟩
    have hranked : (⟨i, a⟩ : RankedArray) ∈ RankedArray.ranking servers :=
      RankedArray.mem_ranking.2 ⟨s, hs, ha⟩
    obtain ⟨k, hk⟩ := List.mem_iff_getElem?.1 hranked
    have hentry : RankEntry.ofRanked (k + 1) ⟨i, a⟩ ∈ shown.ranked := by
      have hplace := atPlace?_ranked now servers k
      rw [hk] at hplace
      exact List.mem_of_getElem? hplace
    refine ⟨_, hentry, ⟨rfl, rfl, rfl⟩, fun e' he' hcmc hname => ?_⟩
    exact List.inj_on_of_nodup_map (nodup_ranked hsorted) he' hentry (Prod.ext hcmc hname)
  · intro rank
    cases rank with
    | zero => simp [rankedArray?, atPlace?]
    | succ i =>
      rw [hlength]
      cases hr : (RankedArray.ranking servers)[i]? with
      | none =>
        have hplace : shown.rankedArray? (i + 1) = none := by
          rw [rankedArray?, atPlace?_ranked, hr]
          rfl
        have hbeyond := List.getElem?_eq_none_iff.1 hr
        simp only [hplace, Option.isSome_none, Bool.false_eq_true, false_iff]
        omega
      | some r =>
        obtain ⟨-, hplace, -⟩ := lookups_of_ranking now hsorted hr
        obtain ⟨hwithin, -⟩ := List.getElem?_eq_some_iff.1 hr
        exact iff_of_true (by rw [hplace]; rfl) ⟨Nat.succ_pos i, hwithin⟩
  · intro e he
    rw [ranked_eq] at he
    obtain ⟨⟨r, i⟩, hr, rfl⟩ := List.mem_map.1 he
    obtain ⟨htracks, hrank, hname⟩ :=
      lookups_of_ranking now hsorted (List.mem_zipIdx_iff_getElem?.1 hr)
    exact ⟨r.array, htracks, ⟨rfl, rfl, rfl⟩, hrank, hname⟩

/-! ## Two CMCs with arrays of one size -/

/-- A CMC whose arrays are announced one after the other. -/
def announces (arrays : List (String × String)) : Option (CmcMoment ScriptedNetwork) :=
  let informs : List Message := arrays.map fun (name, endpoints) =>
    ⟨.inform, [CmcServer.arrayListName, name, endpoints]⟩
  CmcMoment.started.run? (.happens 0 .connected :: CmcAct.hears informs (informs.map .inform))

def firstCmc : CmcMoment ScriptedNetwork :=
  (announces [("small", "7148,7149,g1,g2"), ("tie-a", "7150,7151,g1,g2,g3,g4")]).get
    (by decide +kernel)

def secondCmc : CmcMoment ScriptedNetwork :=
  (announces [("tie-b", "7150,7151,g1,g2,g3,g4"), ("big", "7148,7149,g1,g2,g3,g4,g5,g6")]).get
    (by decide +kernel)

theorem reached_of_announces {arrays : List (String × String)} {m : CmcMoment ScriptedNetwork}
    (h : announces arrays = some m) : m.server.IsReached ScriptedNetwork :=
  ⟨m, ⟨_, _, _, _, _, _, _, h⟩, rfl⟩

theorem ranking_exact_ties :
    let servers := [firstCmc.server, secondCmc.server]
    let shown := ofServers ⟨0⟩ servers
    (∀ s ∈ servers, s.IsReached ScriptedNetwork) ∧
      (shown.ranked.map fun e => (e.rank, e.cmc, e.name)) =
        [(1, 2, "big"), (2, 1, "tie-a"), (3, 2, "tie-b"), (4, 1, "small")] ∧
      shown.ranked.Pairwise RankEntry.Before ∧
      ∀ e ∈ shown.ranked, ∃ a, Tracks servers e.cmc a ∧ e.Tells e.cmc a ∧
        shown.rankedArray? e.rank = some (.ofArray a) ∧
        (¬ ArrayKey.AllDigits e.name → shown.array? e.cmc e.name = some (.ofArray a)) := by
  intro servers shown
  have hreach : ∀ s ∈ servers, s.IsReached ScriptedNetwork := by
    intro s hs
    rcases List.mem_pair.1 hs with rfl | rfl
    · exact reached_of_announces (Option.some_get _).symm
    · exact reached_of_announces (Option.some_get _).symm
  have harrays : (RankedArray.ofServers servers).map RankedArray.shown =
      [(0, "small", 1), (0, "tie-a", 2), (1, "big", 3), (1, "tie-b", 2)] := by decide +kernel
  have hranking : (RankedArray.ranking servers).map RankedArray.shown =
      [(1, "big", 3), (0, "tie-a", 2), (1, "tie-b", 2), (0, "small", 1)] := by
    rw [RankedArray.map_shown_ranking, harrays]
    simp [List.mergeSort]
  have hranked : (shown.ranked.map fun e => (e.rank, e.cmc, e.name)) =
      ((RankedArray.ranking servers).map RankedArray.shown).zipIdx.map
        fun r => (r.2 + 1, r.1.1 + 1, r.1.2.1) := by
    rw [ranked_eq, List.zipIdx_map, List.map_map, List.map_map]
    rfl
  obtain ⟨-, horder, -, -, hlookups⟩ := ranking_exact hreach ⟨0⟩
  refine ⟨hreach, ?_, horder, hlookups⟩
  rw [hranked, hranking]
  rfl

end Snapshot

end ArrayWatch
