import ArrayWatch.Proofs.LineStream
import ArrayWatch.Subscription.Plan

/-!
# Names of sensors

A place is written as its parts with dots between them. It can be read back from its name when no
part is empty or has a dot in it, its team is a letter and its number is one of 64 bits. The places
that a plan stands for are such places, since a pattern is read from a text by cutting it at its
dots.

* `Pattern.proper_of_parse`, `Plan.Built.proper`: the patterns of a plan are cut at their dots.
* `Pattern.proper_targets`: the places that a pattern stands for can be read back.
-/

namespace ArrayWatch

/-- A part of a name: it is not empty, and there is no dot in it. -/
structure IsSegment (text : String) : Prop where
  nonempty : text ≠ ""
  undotted : '.' ∉ text.toList

instance (text : String) : Decidable (IsSegment text) :=
  decidable_of_iff (text ≠ "" ∧ '.' ∉ text.toList)
    ⟨fun h => ⟨h.1, h.2⟩, fun h => ⟨h.nonempty, h.undotted⟩⟩

/-- An identity that can be read from a name. -/
structure HostId.Proper (id : HostId) : Prop where
  team : id.team.isAlpha = true
  index : id.index ≤ Decimal.word64

/-- A place that can be read from a name. -/
def SensorPath.Proper : SensorPath → Prop
  | .array sensor => IsSegment sensor
  | .host id device sensor => id.Proper ∧ IsSegment device ∧ IsSegment sensor
  | .engine id unit device sensor =>
    id.Proper ∧ IsSegment unit ∧ IsSegment device ∧ IsSegment sensor

/-- A pattern that can be read from a text. -/
def Pattern.Proper : Pattern → Prop
  | .array sensor => IsSegment sensor
  | .device team name => team.isAlpha = true ∧ IsSegment name
  | .engineDevice team base name => team.isAlpha = true ∧ IsSegment base ∧ IsSegment name

/-! ## Segments -/

theorem isSegment_of_mem_splitOn {text : String} {part : List Char}
    (hpart : part ∈ text.toList.splitOn '.') (hnonempty : part ≠ []) :
    IsSegment (.ofList part) := by
  constructor
  · simpa using hnonempty
  · intro hdot
    have hmem : '.' ∈ part := by simpa using hdot
    have hfalse := Text.not_of_mem_splitOnP hpart '.' hmem
    exact absurd hfalse (by decide)

/-- Texts with a separator between them are cut into these texts, where it is in none of them. -/
theorem Text.splitOn_intercalate {separator : Char} {parts : List String} (hne : parts ≠ [])
    (h : ∀ part ∈ parts, separator ∉ part.toList) :
    ([separator].intercalate (parts.map String.toList)).splitOn separator =
      parts.map String.toList := by
  apply List.splitOn_intercalate
  · intro token htoken
    obtain ⟨part, hpart, rfl⟩ := List.mem_map.1 htoken
    exact h part hpart
  · simpa using hne

/-! ## Patterns -/

namespace Pattern

theorem isAlpha_of_team? {segment : List Char} {team : Char} (h : team? segment = some team) :
    team.isAlpha = true := by
  unfold team? at h
  exact (Option.filter_eq_some_iff.1 h).2

theorem proper_of_parse {text : String} {p : Pattern} (h : parse text = .ok p) : p.Proper := by
  unfold parse at h
  dsimp only at h
  split at h
  · contradiction
  · rename_i hany
    have hsegment : ∀ part ∈ text.toList.splitOn '.', IsSegment (.ofList part) := by
      intro part hpart
      apply isSegment_of_mem_splitOn hpart
      rintro rfl
      exact hany (List.any_eq_true.2 ⟨[], hpart, rfl⟩)
    split at h
    · rename_i sensor hsplit
      obtain rfl := Except.ok.inj h
      exact hsegment sensor (by simp [hsplit])
    · rename_i team name hsplit
      split at h
      · rename_i kind hteam
        obtain rfl := Except.ok.inj h
        exact ⟨isAlpha_of_team? hteam, hsegment name (by simp [hsplit])⟩
      · contradiction
    · rename_i team base name hsplit
      split at h
      · rename_i kind hteam
        obtain rfl := Except.ok.inj h
        exact ⟨isAlpha_of_team? hteam, hsegment base (by simp [hsplit]),
          hsegment name (by simp [hsplit])⟩
      · contradiction
    · contradiction

theorem isSegment_numbered {base : String} (h : IsSegment base) (j : Nat) :
    IsSegment (base ++ toString j) := by
  constructor
  · intro hempty
    have htext := congrArg String.toList hempty
    have hbase : base.toList ≠ [] := by
      have := h.nonempty
      simpa using this
    simp [hbase] at htext
  · intro hdot
    rw [String.toList_append] at hdot
    rcases List.mem_append.1 hdot with hdot | hdot
    · exact h.undotted hdot
    · rw [Decimal.toList_toString] at hdot
      exact Decimal.not_mem_write (by decide) j hdot

/-- The places that a pattern stands for can be read from their names. -/
theorem proper_targets {p : Pattern} (h : p.Proper) {antennas : Nat}
    (hantennas : antennas ≤ Decimal.word64) (enginesPerHost : Nat) :
    ∀ path ∈ p.targets antennas enginesPerHost, path.Proper := by
  have hstatus : IsSegment deviceStatus := by decide
  have hindex : ∀ {team i}, team.isAlpha = true → i ∈ List.range antennas →
      HostId.Proper ⟨team, i⟩ := by
    intro team i hteam hi
    exact ⟨hteam, Nat.le_trans (Nat.le_of_lt (List.mem_range.1 hi)) hantennas⟩
  intro path hpath
  cases p with
  | array sensor =>
    obtain rfl := List.mem_singleton.1 hpath
    exact h
  | device team name =>
    obtain ⟨i, hi, rfl⟩ := List.mem_map.1 hpath
    exact ⟨hindex h.1 hi, h.2, hstatus⟩
  | engineDevice team base name =>
    obtain ⟨i, hi, hpath⟩ := List.mem_flatMap.1 hpath
    obtain ⟨j, -, rfl⟩ := List.mem_map.1 hpath
    exact ⟨hindex h.1 hi, isSegment_numbered h.2.1 j, h.2.2, hstatus⟩

end Pattern

/-! ## Plans -/

namespace Plan

/-- Plans that come from a pattern file and from further texts, also if one of those is no
pattern. -/
inductive Built : Plan → Prop
  | parse {text : String} {enginesPerHost : Nat} {plan : Plan}
      (h : Plan.parse text enginesPerHost = .ok plan) : Built plan
  | extend {plan : Plan} (texts : List String) (h : Built plan) : Built (plan.extend texts).1

theorem proper_parseLines {line : Nat} {lines : List (List Char)} {patterns : List Pattern}
    (h : parseLines line lines = .ok patterns) : ∀ p ∈ patterns, p.Proper := by
  induction lines generalizing line patterns with
  | nil =>
    obtain rfl := Except.ok.inj h
    nofun
  | cons text rest ih =>
    unfold parseLines at h
    dsimp only at h
    split at h
    · exact ih h
    · split at h
      · contradiction
      · rename_i first hfirst
        cases hrest : parseLines (line + 1) rest with
        | error e =>
          rw [hrest] at h
          contradiction
        | ok others =>
          rw [hrest] at h
          obtain rfl := Except.ok.inj h
          intro p hp
          rcases List.mem_cons.1 hp with rfl | hp
          · exact Pattern.proper_of_parse hfirst
          · exact ih hrest p hp

theorem proper_extendFrom (place : Nat) {plan : Plan} (h : ∀ p ∈ plan.patterns, p.Proper)
    (texts : List String) : ∀ p ∈ (plan.extendFrom place texts).1.patterns, p.Proper := by
  induction texts generalizing place plan with
  | nil => exact h
  | cons text rest ih =>
    unfold extendFrom
    split
    -- the first text that is no pattern ends the extension, what was added before it stays
    · exact h
    · rename_i last hlast
      apply ih
      intro p hp
      rcases List.mem_append.1 hp with hp | hp
      · exact h p hp
      · obtain rfl := List.mem_singleton.1 hp
        exact Pattern.proper_of_parse hlast

theorem Built.proper {plan : Plan} (h : Built plan) : ∀ p ∈ plan.patterns, p.Proper := by
  induction h with
  | @parse text enginesPerHost plan hparse =>
    unfold Plan.parse at hparse
    cases hlines : parseLines 1 (text.toList.splitOn '\n') with
    | error e =>
      rw [hlines] at hparse
      contradiction
    | ok patterns =>
      rw [hlines] at hparse
      obtain rfl := Except.ok.inj hparse
      exact proper_parseLines hlines
  | extend texts _ ih => exact proper_extendFrom 1 ih texts

end Plan

end ArrayWatch
