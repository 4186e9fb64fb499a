import ArrayWatch.Proofs.SensorNames
import Mathlib.Data.String.Basic

/-!
# The grammar of patterns

A pattern is read from one to three segments, none of them empty, the first of two or three with a
letter in front. Of that segment the letter alone is kept, so that the text of a pattern is the one
that it was read from, except for what comes between the letter and the next dot.

* `Pattern.parse_eq_ok_iff`, `Pattern.explains_of_parse`: what is read, and what is wrong otherwise.
* `Pattern.exists_readFrom_iff`: when a pattern is read.
* `Pattern.Proper.readFrom_text`, `Pattern.ReadFrom.text_eq`: a pattern and its text.
-/

namespace ArrayWatch

/-! ## Segments -/

namespace Pattern

variable {p : Pattern} {text : String} {content : List Char}

/-- A segment names a team: it begins with its letter. -/
def NamesTeam (segment : List Char) (team : Char) : Prop :=
  ∃ rest, segment = team :: rest ∧ team.isAlpha = true

theorem team?_eq_some_iff {segment : List Char} {team : Char} :
    team? segment = some team ↔ NamesTeam segment team := by
  unfold team? NamesTeam
  rw [Option.filter_eq_some_iff, List.head?_eq_some_iff]
  constructor
  · rintro ⟨⟨rest, hsegment⟩, hteam⟩
    exact ⟨rest, hsegment, hteam⟩
  · rintro ⟨rest, hsegment, hteam⟩
    exact ⟨⟨rest, hsegment⟩, hteam⟩

/-- The segments that a pattern is read from. Of the one for the team only the letter counts. -/
def IsMadeOf : Pattern → List (List Char) → Prop
  | array sensor, segments => segments = [sensor.toList]
  | device team name, segments =>
    ∃ segment, segments = [segment, name.toList] ∧ NamesTeam segment team
  | engineDevice team base name, segments =>
    ∃ segment, segments = [segment, base.toList, name.toList] ∧ NamesTeam segment team

/-- A pattern is read from a text between dots, none of the segments of which is empty. -/
def ReadFrom (p : Pattern) (content : List Char) : Prop :=
  (∀ segment ∈ content.splitOn '.', segment ≠ []) ∧ p.IsMadeOf (content.splitOn '.')

/-- One to three segments, none of them empty, the first of two or three for a team. -/
structure Readable (segments : List (List Char)) : Prop where
  nonempty : ∀ segment ∈ segments, segment ≠ []
  shape : segments.length = 1 ∨ (segments.length = 2 ∨ segments.length = 3) ∧
    ∃ segment ∈ segments.head?, ∃ team, NamesTeam segment team

theorem parse_eq_ok_iff : parse text = .ok p ↔ p.ReadFrom text.toList := by
  unfold parse ReadFrom
  generalize text.toList.splitOn '.' = segments
  dsimp only
  by_cases hempty : segments.any List.isEmpty = true
  · rw [if_pos hempty]
    obtain ⟨segment, hsegment, hnil⟩ := List.any_eq_true.1 hempty
    constructor
    · intro h
      contradiction
    · intro h
      exact absurd (List.isEmpty_iff.1 hnil) (h.1 segment hsegment)
  · rw [if_neg hempty]
    have hnonempty : ∀ segment ∈ segments, segment ≠ [] := by
      intro segment hsegment hnil
      exact hempty (List.any_eq_true.2 ⟨segment, hsegment, List.isEmpty_iff.2 hnil⟩)
    rw [and_iff_right hnonempty]
    clear hempty hnonempty
    match segments with
    | [sensor] => cases p <;> simp [IsMadeOf, String.ofList_eq]
    | [segment, name] =>
      cases hteam : team? segment <;> cases p <;>
        simp [IsMadeOf, ← team?_eq_some_iff, and_comm, hteam, String.ofList_eq]
    | [segment, base, name] =>
      cases hteam : team? segment <;> cases p <;>
        simp [IsMadeOf, ← team?_eq_some_iff, and_assoc, and_comm, and_left_comm, hteam,
          String.ofList_eq]
    | [] | _ :: _ :: _ :: _ :: _ => cases p <;> simp [IsMadeOf]

theorem exists_isMadeOf_iff {segments : List (List Char)} :
    (∃ p : Pattern, p.IsMadeOf segments) ↔
      segments.length = 1 ∨ (segments.length = 2 ∨ segments.length = 3) ∧
        ∃ segment ∈ segments.head?, ∃ team, NamesTeam segment team := by
  constructor
  · rintro ⟨p, hmade⟩
    cases p with
    | array sensor =>
      obtain rfl := hmade
      exact .inl rfl
    | device team name =>
      obtain ⟨segment, rfl, hteam⟩ := hmade
      exact .inr ⟨.inl rfl, segment, rfl, team, hteam⟩
    | engineDevice team base name =>
      obtain ⟨segment, rfl, hteam⟩ := hmade
      exact .inr ⟨.inr rfl, segment, rfl, team, hteam⟩
  · rintro (hone | ⟨hlength, segment, hsegment, team, hteam⟩)
    · obtain ⟨sensor, rfl⟩ := List.length_eq_one_iff.1 hone
      exact ⟨.array (.ofList sensor), by simp [IsMadeOf]⟩
    · obtain ⟨rest, rfl⟩ := List.head?_eq_some_iff.1 hsegment
      rcases hlength with htwo | hthree
      · obtain ⟨name, rfl⟩ := List.length_eq_one_iff.1 (Nat.succ.inj htwo)
        exact ⟨.device team (.ofList name), segment, by simp, hteam⟩
      · obtain ⟨base, name, rfl⟩ := List.length_eq_two.1 (Nat.succ.inj hthree)
        exact ⟨.engineDevice team (.ofList base) (.ofList name), segment, by simp, hteam⟩

theorem exists_readFrom_iff : (∃ p, ReadFrom p content) ↔ Readable (content.splitOn '.') := by
  unfold ReadFrom
  rw [exists_and_left, exists_isMadeOf_iff]
  exact ⟨fun h => ⟨h.1, h.2⟩, fun h => ⟨h.nonempty, h.shape⟩⟩

end Pattern

/-- What is wrong with a text: a segment of it is empty; or none is, but the first of two or three
is not for a team; or there are more than three. -/
def PatternError.Explains (content : List Char) : PatternError → Prop
  | emptySegment text => text.toList = content ∧ [] ∈ content.splitOn '.'
  | badTeam text => text.toList = content ∧ [] ∉ content.splitOn '.' ∧
    ((content.splitOn '.').length = 2 ∨ (content.splitOn '.').length = 3) ∧
    ∀ segment ∈ (content.splitOn '.').head?, ∀ team, ¬ Pattern.NamesTeam segment team
  | segmentCount text count => text.toList = content ∧ [] ∉ content.splitOn '.' ∧
    (content.splitOn '.').length = count ∧ 3 < count

theorem Pattern.explains_of_parse {text : String} {e : PatternError} (h : parse text = .error e) :
    e.Explains text.toList := by
  have hteam : ∀ segment, team? segment = none → ∀ team, ¬ NamesTeam segment team := by
    intro segment hnone team hnames
    rw [team?_eq_some_iff.2 hnames] at hnone
    contradiction
  unfold parse at h
  dsimp only at h
  split at h
  · rename_i hempty
    obtain rfl := Except.error.inj h
    exact ⟨rfl, by simpa using hempty⟩
  · rename_i hempty
    have hnonempty : [] ∉ text.toList.splitOn '.' := by simpa using hempty
    split at h
    · contradiction
    · rename_i segment name hsegments
      split at h
      · contradiction
      · rename_i hnone
        obtain rfl := Except.error.inj h
        refine ⟨rfl, hnonempty, .inl (by rw [hsegments]; rfl), ?_⟩
        rw [hsegments]
        rintro _ ⟨⟩
        exact hteam segment hnone
    · rename_i segment base name hsegments
      split at h
      · contradiction
      · rename_i hnone
        obtain rfl := Except.error.inj h
        refine ⟨rfl, hnonempty, .inr (by rw [hsegments]; rfl), ?_⟩
        rw [hsegments]
        rintro _ ⟨⟩
        exact hteam segment hnone
    · rename_i hone htwo hthree
      obtain rfl := Except.error.inj h
      refine ⟨rfl, hnonempty, rfl, ?_⟩
      have hne := List.splitOn_ne_nil '.' text.toList
      generalize text.toList.splitOn '.' = segments at *
      match segments with
      | [] => contradiction
      | [sensor] => exact absurd rfl (hone sensor)
      | [segment, name] => exact absurd rfl (htwo segment name)
      | [segment, base, name] => exact absurd rfl (hthree segment base name)
      | _ :: _ :: _ :: _ :: rest =>
        simp only [List.length_cons]
        omega

/-! ## Texts of patterns -/

namespace Pattern

variable {p : Pattern} {content : List Char}

/-- The parts of the text of a pattern between its dots. -/
def textSegments : Pattern → List String
  | array sensor => [sensor]
  | device team name => [String.singleton team, name]
  | engineDevice team base name => [String.singleton team, base, name]

theorem toList_text (p : Pattern) :
    p.text.toList = ['.'].intercalate (p.textSegments.map String.toList) := by
  cases p <;> simp [text, textSegments, List.intercalate]

theorem isSegment_singleton {team : Char} (h : team.isAlpha = true) :
    IsSegment (String.singleton team) := by
  constructor
  · simp [← String.toList_inj]
  · rw [String.toList_singleton, List.mem_singleton]
    rintro rfl
    exact absurd h (by decide)

theorem Proper.isSegment (h : p.Proper) : ∀ segment ∈ p.textSegments, IsSegment segment := by
  cases p with
  | array sensor => exact List.forall_mem_singleton.2 h
  | device team name => simpa [textSegments] using ⟨isSegment_singleton h.1, h.2⟩
  | engineDevice team base name =>
    simpa [textSegments] using ⟨isSegment_singleton h.1, h.2.1, h.2.2⟩

theorem Proper.isMadeOf (h : p.Proper) : p.IsMadeOf (p.textSegments.map String.toList) := by
  cases p with
  | array sensor => exact rfl
  | device team name => exact ⟨_, rfl, [], String.toList_singleton team, h.1⟩
  | engineDevice team base name => exact ⟨_, rfl, [], String.toList_singleton team, h.1⟩

/-- A pattern is read from its text. -/
theorem Proper.readFrom_text (h : p.Proper) : p.ReadFrom p.text.toList := by
  have hne : p.textSegments ≠ [] := by cases p <;> simp [textSegments]
  have hsplit : p.text.toList.splitOn '.' = p.textSegments.map String.toList := by
    rw [toList_text]
    exact Text.splitOn_intercalate hne fun part hpart => (h.isSegment part hpart).undotted
  unfold ReadFrom
  rw [hsplit]
  refine ⟨fun segment hsegment hnil => ?_, h.isMadeOf⟩
  obtain ⟨part, hpart, rfl⟩ := List.mem_map.1 hsegment
  exact (h.isSegment part hpart).nonempty (String.toList_eq_nil_iff.1 hnil)

/-- The text is the one that the pattern was read from, but for what comes after the letter of the
team. -/
theorem ReadFrom.text_eq (h : p.ReadFrom content) : p.text.toList = content ∨
    ∃ team rest tail, content = team :: (rest ++ '.' :: tail) ∧
      p.text.toList = team :: '.' :: tail := by
  have hcontent : ['.'].intercalate (content.splitOn '.') = content := List.intercalate_splitOn '.'
  have hmade := h.2
  cases p with
  | array sensor =>
    have hsegments : content.splitOn '.' = [sensor.toList] := hmade
    rw [hsegments, List.intercalate_singleton] at hcontent
    exact .inl hcontent
  | device team name =>
    obtain ⟨_, hsegments, rest, rfl, -⟩ := hmade
    rw [hsegments] at hcontent
    refine .inr ⟨team, rest, name.toList, ?_, ?_⟩
    · rw [← hcontent]
      simp [List.intercalate]
    · simp [text]
  | engineDevice team base name =>
    obtain ⟨_, hsegments, rest, rfl, -⟩ := hmade
    rw [hsegments] at hcontent
    refine .inr ⟨team, rest, base.toList ++ '.' :: name.toList, ?_, ?_⟩
    · rw [← hcontent]
      simp [List.intercalate]
    · simp [text]

theorem ReadFrom.mem (h : p.ReadFrom content) {c : Char} (hc : c ∈ p.text.toList) :
    c ∈ content := by
  rcases h.text_eq with htext | ⟨team, rest, tail, rfl, htext⟩
  · rwa [htext] at hc
  · rw [htext] at hc
    rcases List.mem_cons.1 hc with rfl | htail
    · exact List.mem_cons_self
    · exact List.mem_cons_of_mem _ (List.mem_append_right _ htail)

theorem ReadFrom.proper (h : p.ReadFrom content) : p.Proper := by
  have htext : (String.ofList content).toList = content := String.toList_ofList
  rw [← htext] at h
  exact proper_of_parse (parse_eq_ok_iff.2 h)

end Pattern

end ArrayWatch
