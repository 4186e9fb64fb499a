import ArrayWatch.Proofs.ArrayRanking
import ArrayWatch.Proofs.NameGrammar

/-!
# Keys of arrays

A key of digits is meant as a place and every other key as a name, so that an array whose name is a
number should be found only by its place. The number is read as one of 64 bits, and a key of digits
that is too great for it is taken for a name after all. Arrays are named by those who announce them,
so that there may be one with this name.

* `ArrayKey.parse_eq_position_iff`: just the keys of digits with a value of 64 bits are places.
* `CmcServer.LeadsTo`: what a key is meant to lead to.
* `Snapshot.keys_exact`: what it leads to, in a CMC and in a snapshot, and when this is as meant.
* `CmcServer.not_leadsTo_always`: an array that is found by the name `18446744073709551616`.
-/

namespace ArrayWatch

/-! ## Keys -/

namespace ArrayKey

/-- The number that a text of digits stands for. -/
def value (text : String) : Nat := Nat.ofDigitChars 10 text.toList 0

/-- A key of digits that is too great to be read as a place. -/
def Oversized (text : String) : Prop := AllDigits text ∧ Decimal.word64 < value text

theorem parse_eq_position_iff {text : String} {place : Nat} :
    parse text = position place ↔
      AllDigits text ∧ value text = place ∧ place ≤ Decimal.word64 := by
  have hread : parse text = position place ↔
      Decimal.digits? Decimal.word64 text.toList = some place := by
    unfold parse
    cases Decimal.digits? Decimal.word64 text.toList <;> simp
  rw [hread, Decimal.digits?_eq_some_iff, ne_eq, String.toList_eq_nil_iff, AllDigits, value,
    and_assoc]

theorem parse_of_oversized {text : String} (h : Oversized text) : parse text = name text := by
  cases hparse : parse text with
  | name other =>
    unfold parse at hparse
    split at hparse
    · contradiction
    · exact hparse.symm
  | position place =>
    obtain ⟨-, hvalue, hplace⟩ := parse_eq_position_iff.1 hparse
    have hgreat := h.2
    omega

/-! ## What keys lead to -/

variable {α β : Type}

theorem find?_position (nameOf : α → String) (place : Nat) (items : List α) :
    (position place).find? nameOf items = Snapshot.atPlace? items place := by
  cases place with
  | zero => rfl
  | succ i =>
    show (if i < (items.map nameOf).length then some i else none).bind (items[·]?) = items[i]?
    rw [List.length_map]
    split
    · rfl
    · rename_i hbeyond
      exact (List.getElem?_eq_none (Nat.le_of_not_lt hbeyond)).symm

/-- A key leads to the view of what it leads to. -/
theorem find?_map (key : ArrayKey) (nameOf : β → String) (view : α → β) (items : List α) :
    key.find? nameOf (items.map view) =
      (key.find? (fun item => nameOf (view item)) items).map view := by
  unfold find?
  rw [List.map_map, Option.map_bind]
  refine congrArg _ (funext fun i => ?_)
  exact List.getElem?_map

end ArrayKey

namespace CmcServer

variable {ν : Type} [Network ν] {s : CmcServer} {key : String}

/-- What a key is meant to lead to in a list of arrays: digits lead to the array at this place, if
there is one, and any other key to the one array with this name. -/
structure LeadsTo (arrays : List CorrelatorArray) (key : String)
    (found : Option CorrelatorArray) : Prop where
  place : ArrayKey.AllDigits key → found = Snapshot.atPlace? arrays (ArrayKey.value key)
  name : ¬ ArrayKey.AllDigits key → ∀ a, found = some a ↔ a ∈ arrays ∧ a.name = key

theorem findArray?_of_name (hsorted : s.arrays.Pairwise fun a b => a.name < b.name)
    (hparse : ArrayKey.parse key = .name key) (a : CorrelatorArray) :
    s.findArray? key = some a ↔ a ∈ s.arrays ∧ a.name = key := by
  have hsound : Keyed.Sound CorrelatorArray.name (fun _ => True) s.arrays :=
    ⟨List.pairwise_map.2 (hsorted.imp String.ne_of_lt), fun _ _ => trivial⟩
  rw [findArray?, hparse, ArrayKey.find?_eq_get?]
  exact hsound.get?_eq_some_iff

theorem leadsTo_of_not_oversized (hsorted : s.arrays.Pairwise fun a b => a.name < b.name)
    (hsize : ¬ ArrayKey.Oversized key) : LeadsTo s.arrays key (s.findArray? key) := by
  constructor
  · intro hdigits
    have hfits : ArrayKey.value key ≤ Decimal.word64 :=
      Nat.le_of_not_lt fun hgreat => hsize ⟨hdigits, hgreat⟩
    rw [findArray?, ArrayKey.parse_eq_position_iff.2 ⟨hdigits, rfl, hfits⟩,
      ArrayKey.find?_position]
  · intro hother
    exact findArray?_of_name hsorted (ArrayKey.parse_of_not_allDigits hother)

theorem atPlace?_of_oversized (h : ArrayKey.Oversized key)
    (hshort : s.arrays.length ≤ Decimal.word64) :
    Snapshot.atPlace? s.arrays (ArrayKey.value key) = none := by
  obtain ⟨-, hgreat⟩ := h
  cases hvalue : ArrayKey.value key with
  | zero => rfl
  | succ i => exact List.getElem?_eq_none (by omega)

/-- A key leads elsewhere than it is meant to just where it is too great to be read and there is an
array with this name. -/
theorem leadsTo_iff (hsorted : s.arrays.Pairwise fun a b => a.name < b.name)
    (hshort : s.arrays.length ≤ Decimal.word64) :
    LeadsTo s.arrays key (s.findArray? key) ↔ ¬ (ArrayKey.Oversized key ∧ key ∈ s.names) := by
  by_cases hsize : ArrayKey.Oversized key
  · have hnone := atPlace?_of_oversized hsize hshort
    have hfound := findArray?_of_name hsorted (ArrayKey.parse_of_oversized hsize)
    constructor
    · rintro hleads ⟨-, hnamed⟩
      obtain ⟨a, ha, hname⟩ := mem_names.1 hnamed
      have hsome := (hfound a).2 ⟨ha, hname⟩
      rw [hleads.place hsize.1, hnone] at hsome
      contradiction
    · intro hnot
      refine ⟨fun _ => ?_, fun hother => absurd hsize.1 hother⟩
      rw [hnone]
      refine Option.eq_none_iff_forall_ne_some.2 fun a ha => ?_
      obtain ⟨hmem, hname⟩ := (hfound a).1 ha
      exact hnot ⟨hsize, mem_names.2 ⟨a, hmem, hname⟩⟩
  · exact iff_of_true (leadsTo_of_not_oversized hsorted hsize) fun h => hsize h.1

end CmcServer

/-! ## Keys in a CMC and in a snapshot -/

namespace Snapshot

theorem array?_ofServers (now : Timestamp) (servers : List CmcServer) (cmc : Nat) (key : String) :
    (ofServers now servers).array? cmc key =
      ((atPlace? servers cmc).bind (·.findArray? key)).map .ofArray := by
  cases cmc with
  | zero => rfl
  | succ i =>
    rw [array?, cmc?_ofServers]
    show _ = (servers[i]?.bind _).map _
    cases servers[i]? with
    | none => rfl
    | some s => exact ArrayKey.find?_map _ _ _ _

/-- A key of digits leads to the array at this place and any other key to the one with this name,
unless the number is too great to be read; such a key leads to the array with this name. So the
lookup is as meant just where no array has such a key for its name. A snapshot shows at every place
and for every key the view of what the CMC there finds. -/
theorem keys_exact {ν : Type} [Network ν] {servers : List CmcServer}
    (hreach : ∀ s ∈ servers, s.IsReached ν) (key : String) :
    (∀ s ∈ servers,
      (¬ ArrayKey.Oversized key → CmcServer.LeadsTo s.arrays key (s.findArray? key)) ∧
      (ArrayKey.Oversized key → ∀ a, s.findArray? key = some a ↔ a ∈ s.arrays ∧ a.name = key) ∧
      (s.arrays.length ≤ Decimal.word64 →
        (CmcServer.LeadsTo s.arrays key (s.findArray? key) ↔
          ¬ (ArrayKey.Oversized key ∧ key ∈ s.names)))) ∧
    ∀ now cmc, (ofServers now servers).array? cmc key =
      ((atPlace? servers cmc).bind (·.findArray? key)).map .ofArray := by
  refine ⟨fun s hs => ?_, fun now cmc => array?_ofServers now servers cmc key⟩
  have hsorted := (hreach s hs).sorted
  refine ⟨CmcServer.leadsTo_of_not_oversized hsorted, fun hsize => ?_,
    CmcServer.leadsTo_iff hsorted⟩
  exact CmcServer.findArray?_of_name hsorted (ArrayKey.parse_of_oversized hsize)

/-! ## Arrays whose names are numbers -/

/-- The least number that is too great for a place. -/
def tooGreat : String := "18446744073709551616"

theorem oversized_tooGreat : ArrayKey.Oversized tooGreat := by
  have hdigits : tooGreat.toList.all Char.isDigit = true := by decide +kernel
  exact ⟨⟨by decide, List.all_eq_true.1 hdigits⟩, by decide +kernel⟩

/-- A CMC with two arrays, and the number of the first one is too great for a place. -/
def numberedCmc : CmcMoment ScriptedNetwork :=
  (announces [("2", "7150,7151,g1,g2"), (tooGreat, "7148,7149,g1,g2,g3,g4")]).get
    (by decide +kernel)

theorem isReached_numberedCmc : numberedCmc.server.IsReached ScriptedNetwork :=
  reached_of_announces (Option.some_get _).symm

theorem keys_exact_numbered :
    let s := numberedCmc.server
    s.names = [tooGreat, "2"] ∧ s.IsReached ScriptedNetwork ∧
      ¬ ArrayKey.Oversized "1" ∧ CmcServer.LeadsTo s.arrays "1" (s.findArray? "1") ∧
      (s.findArray? "1").map CorrelatorArray.name = some tooGreat ∧
      (ofServers ⟨0⟩ [s]).array? 1 "1" = (s.findArray? "1").map .ofArray ∧
      ArrayKey.Oversized tooGreat ∧
      ∀ a, s.findArray? tooGreat = some a ↔ a ∈ s.arrays ∧ a.name = tooGreat := by
  intro s
  have hreach : ∀ s' ∈ [s], s'.IsReached ScriptedNetwork :=
    List.forall_mem_singleton.2 isReached_numberedCmc
  have hfits : ¬ ArrayKey.Oversized "1" := fun h => absurd h.2 (by decide)
  obtain ⟨hplaces, hshown⟩ := keys_exact hreach "1"
  obtain ⟨hnames, -⟩ := keys_exact hreach tooGreat
  obtain ⟨hplace, -⟩ := hplaces s List.mem_cons_self
  obtain ⟨-, hname, -⟩ := hnames s List.mem_cons_self
  exact ⟨by decide +kernel, isReached_numberedCmc, hfits, hplace hfits, by decide +kernel,
    hshown ⟨0⟩ 1, oversized_tooGreat, hname oversized_tooGreat⟩

end Snapshot

/-- Digits do not always lead to a place: the number that is too great leads to the array of this
name, although there are two arrays only. -/
theorem CmcServer.not_leadsTo_always : ¬ ∀ (s : CmcServer) (key : String),
    s.IsReached ScriptedNetwork → LeadsTo s.arrays key (s.findArray? key) := by
  intro h
  have hleads := h _ Snapshot.tooGreat Snapshot.isReached_numberedCmc
  have hbeyond : Snapshot.atPlace? Snapshot.numberedCmc.server.arrays
      (ArrayKey.value Snapshot.tooGreat) = none :=
    atPlace?_of_oversized Snapshot.oversized_tooGreat (by decide +kernel)
  have hfound : (Snapshot.numberedCmc.server.findArray? Snapshot.tooGreat).isSome = true := by
    decide +kernel
  rw [hleads.place Snapshot.oversized_tooGreat.1, hbeyond] at hfound
  contradiction

end ArrayWatch
