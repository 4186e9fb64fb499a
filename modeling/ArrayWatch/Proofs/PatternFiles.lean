import ArrayWatch.Proofs.KeyedTables
import ArrayWatch.Proofs.PatternGrammar

/-!
# Pattern files

A line of a pattern file is cut at its first number sign, and the blanks around the rest are
dropped. What is left is nothing or has to be a pattern. Since lines are read one by one and each is
counted, the first line that holds something else is told with its number. The text of a pattern is
as tidy as what the line held, with no number sign, no line feed and no blank at an end, so that it
is a line that holds itself, and the file of these lines is read as the same plan.

* `Plan.Holds`, `Plan.holds_iff`: what a line holds.
* `Plan.Reads`, `Plan.reads_of_parseLines`: the patterns of a file.
* `Plan.parseLines_of_not_taken`: the first line that is not taken.
* `Plan.textLines`, `Plan.parse_eq_textLines`: the lines of a text, by which it is read.
* `Plan.reads_exactly`: all of it, for every text.
-/

namespace ArrayWatch

namespace Plan

open Text (Trimmed isBlank)

variable {line content : List Char} {lines : List (List Char)} {patterns : List Pattern}

/-! ## Lines -/

/-- There is no number sign in a text and no blank at an end of it. -/
structure Tidy (content : List Char) : Prop where
  plain : '#' ∉ content
  trimmed : Trimmed isBlank content

/-- What a line holds: there may be blanks around it, and a comment after it that starts with a
number sign. -/
def Holds (line content : List Char) : Prop :=
  Tidy content ∧ ∃ lead trail comment, line = lead ++ (content ++ trail) ++ comment ∧
    (∀ c ∈ lead, isBlank c = true) ∧ (∀ c ∈ trail, isBlank c = true) ∧
    ∀ c ∈ comment.head?, c = '#'

theorem holds_iff : Holds line content ↔ lineContent line = content := by
  unfold lineContent Text.trim
  constructor
  · rintro ⟨htidy, lead, trail, comment, rfl, hlead, htrail, hcomment⟩
    have hplain : ∀ c ∈ lead ++ (content ++ trail), (c != '#') = true := by
      intro c hc
      rw [bne_iff_ne]
      rintro rfl
      rcases List.mem_append.1 hc with hc | hc
      · exact absurd (hlead _ hc) (by decide)
      · rcases List.mem_append.1 hc with hc | hc
        · exact htidy.plain hc
        · exact absurd (htrail _ hc) (by decide)
    have hrest : comment.takeWhile (· != '#') = [] := by
      cases comment with
      | nil => rfl
      | cons c rest => exact List.takeWhile_cons_of_neg (by simp [hcomment c rfl])
    rw [List.takeWhile_append_of_pos hplain, hrest, List.append_nil,
      Text.trimWhile_append hlead htrail htidy.trimmed]
  · rintro rfl
    obtain ⟨lead, trail, hline, hlead, htrail⟩ :=
      Text.exists_trimWhile isBlank (line.takeWhile (· != '#'))
    have hcomment : ∀ c ∈ (line.dropWhile (· != '#')).head?, c = '#' := by
      intro c hc
      simpa using Text.head?_dropWhile_of_some hc
    refine ⟨⟨fun hmem => ?_, Text.trimmed_trimWhile _ _⟩, lead, trail, _, ?_, hlead, htrail,
      hcomment⟩
    · have hbefore : '#' ∈ line.takeWhile (· != '#') := by
        rw [hline]
        exact List.mem_append_right _ (List.mem_append_left _ hmem)
      exact absurd (List.mem_takeWhile_imp hbefore) (by decide)
    · rw [← hline, List.takeWhile_append_dropWhile]

theorem holds_lineContent (line : List Char) : Holds line (lineContent line) := holds_iff.2 rfl

theorem Tidy.holds_self (h : Tidy content) : Holds content content :=
  ⟨h, [], [], [], by simp, nofun, nofun, nofun⟩

theorem Holds.mem {c : Char} (h : Holds line content) (hc : c ∈ content) : c ∈ line := by
  obtain ⟨-, lead, trail, comment, rfl, -⟩ := h
  simp [hc]

/-- The text of a pattern is as tidy as the one that the pattern was read from. -/
theorem tidy_text {p : Pattern} (h : p.ReadFrom content) (htidy : Tidy content) :
    Tidy p.text.toList := by
  have hplain : '#' ∉ p.text.toList := fun hmem => htidy.plain (h.mem hmem)
  rcases h.text_eq with htext | ⟨team, rest, tail, rfl, htext⟩
  · rwa [htext]
  · rw [htext] at hplain ⊢
    refine ⟨hplain, fun c hc => htidy.trimmed.first c hc, fun c hc => htidy.trimmed.last c ?_⟩
    rw [← List.cons_append, List.getLast?_append_of_ne_nil _ (List.cons_ne_nil _ _)]
    exact hc

/-! ## Files -/

/-- A line that is taken: it holds nothing, or a text that a pattern is read from. -/
def Taken (line : List Char) : Prop :=
  ∃ content, Holds line content ∧ (content = [] ∨ Pattern.Readable (content.splitOn '.'))

/-- The patterns of lines, in the order of the lines. -/
inductive Reads : List (List Char) → List Pattern → Prop
  | nil : Reads [] []
  | blank {line : List Char} {lines : List (List Char)} {patterns : List Pattern}
      (hheld : Holds line []) (hrest : Reads lines patterns) : Reads (line :: lines) patterns
  | pattern {line content : List Char} {lines : List (List Char)} {p : Pattern}
      {patterns : List Pattern} (hheld : Holds line content) (hne : content ≠ [])
      (hread : p.ReadFrom content) (hrest : Reads lines patterns) :
      Reads (line :: lines) (p :: patterns)

theorem parseLines_blank {n : Nat} (hheld : Holds line []) :
    parseLines n (line :: lines) = parseLines (n + 1) lines := by
  rw [parseLines]
  simp [holds_iff.1 hheld]

theorem parseLines_pattern {n : Nat} {p : Pattern} (hheld : Holds line content) (hne : content ≠ [])
    (hread : p.ReadFrom content) :
    parseLines n (line :: lines) = (parseLines (n + 1) lines).map (p :: ·) := by
  have hparse : Pattern.parse (.ofList content) = .ok p :=
    Pattern.parse_eq_ok_iff.2 (by rwa [String.toList_ofList])
  rw [parseLines]
  simp [holds_iff.1 hheld, hne, hparse]

theorem Reads.parseLines_eq (h : Reads lines patterns) (n : Nat) :
    parseLines n lines = .ok patterns := by
  induction h generalizing n with
  | nil => rfl
  | blank hheld _ ih => rw [parseLines_blank hheld, ih]
  | pattern hheld hne hread _ ih =>
    rw [parseLines_pattern hheld hne hread, ih]
    rfl

theorem taken_iff : Taken line ↔ Holds line [] ∨
    ∃ content p, Holds line content ∧ content ≠ [] ∧ Pattern.ReadFrom p content := by
  constructor
  · rintro ⟨content, hheld, hcontent⟩
    by_cases hne : content = []
    · exact .inl (hne ▸ hheld)
    · obtain ⟨p, hp⟩ := Pattern.exists_readFrom_iff.2 (hcontent.resolve_left hne)
      exact .inr ⟨content, p, hheld, hne, hp⟩
  · rintro (hblank | ⟨content, p, hheld, -, hp⟩)
    · exact ⟨[], hblank, .inl rfl⟩
    · exact ⟨content, hheld, .inr (Pattern.exists_readFrom_iff.1 ⟨p, hp⟩)⟩

/-- Lines are read just where each of them is taken. -/
theorem exists_reads_iff : (∃ patterns, Reads lines patterns) ↔ ∀ line ∈ lines, Taken line := by
  constructor
  · rintro ⟨patterns, h⟩
    induction h with
    | nil => nofun
    | blank hheld _ ih => exact List.forall_mem_cons.2 ⟨taken_iff.2 (.inl hheld), ih⟩
    | pattern hheld hne hread _ ih =>
      exact List.forall_mem_cons.2 ⟨taken_iff.2 (.inr ⟨_, _, hheld, hne, hread⟩), ih⟩
  · intro h
    induction lines with
    | nil => exact ⟨[], .nil⟩
    | cons line rest ih =>
      obtain ⟨hline, hrest⟩ := List.forall_mem_cons.1 h
      obtain ⟨patterns, hreads⟩ := ih hrest
      rcases taken_iff.1 hline with hblank | ⟨content, p, hheld, hne, hread⟩
      · exact ⟨patterns, .blank hblank hreads⟩
      · exact ⟨p :: patterns, .pattern hheld hne hread hreads⟩

/-- The first line that is not taken ends the reading, with its number. -/
theorem parseLines_of_not_taken {before : List (List Char)} (after : List (List Char))
    (hbefore : ∀ other ∈ before, Taken other) (hline : ¬ Taken line) (n : Nat) :
    ∃ content reason, Holds line content ∧ reason.Explains content ∧
      parseLines n (before ++ line :: after) = .error ⟨n + before.length, reason⟩ := by
  induction before generalizing n with
  | nil =>
    have hheld := holds_lineContent line
    have hne : lineContent line ≠ [] := fun hnil => hline ⟨_, hheld, .inl hnil⟩
    cases hparse : Pattern.parse (.ofList (lineContent line)) with
    | ok p =>
      have hread := Pattern.parse_eq_ok_iff.1 hparse
      rw [String.toList_ofList] at hread
      exact absurd (taken_iff.2 (.inr ⟨_, p, hheld, hne, hread⟩)) hline
    | error reason =>
      have hexplains := Pattern.explains_of_parse hparse
      rw [String.toList_ofList] at hexplains
      refine ⟨_, reason, hheld, hexplains, ?_⟩
      rw [List.nil_append, parseLines]
      simp [hne, hparse]
  | cons first rest ih =>
    obtain ⟨hfirst, hrest⟩ := List.forall_mem_cons.1 hbefore
    obtain ⟨content, reason, hheld, hexplains, hparse⟩ := ih hrest (n + 1)
    refine ⟨content, reason, hheld, hexplains, ?_⟩
    have hnumber : n + (first :: rest).length = n + 1 + rest.length := by
      rw [List.length_cons]
      omega
    rw [hnumber, List.cons_append]
    rcases taken_iff.1 hfirst with hblank | ⟨content', p, hheld', hne, hread⟩
    · rw [parseLines_blank hblank, hparse]
    · rw [parseLines_pattern hheld' hne hread, hparse]
      rfl

theorem reads_of_parseLines {n : Nat} (h : parseLines n lines = .ok patterns) :
    Reads lines patterns := by
  induction lines generalizing n patterns with
  | nil =>
    obtain rfl := Except.ok.inj h
    exact .nil
  | cons line rest ih =>
    by_cases hline : Taken line
    · rcases taken_iff.1 hline with hblank | ⟨content, p, hheld, hne, hread⟩
      · rw [parseLines_blank hblank] at h
        exact .blank hblank (ih h)
      · rw [parseLines_pattern hheld hne hread] at h
        obtain ⟨others, hrest, rfl⟩ := Keyed.eq_ok_of_map h
        exact .pattern hheld hne hread (ih hrest)
    · have hnone : ∀ other ∈ ([] : List (List Char)), Taken other := nofun
      obtain ⟨content, reason, -, -, herror⟩ := parseLines_of_not_taken rest hnone hline n
      rw [List.nil_append, h] at herror
      contradiction

/-! ## Lines of a text -/

/-- Lines are read by what they hold. -/
theorem parseLines_congr {others : List (List Char)}
    (h : lines.map lineContent = others.map lineContent) (n : Nat) :
    parseLines n lines = parseLines n others := by
  induction lines generalizing n others with
  | nil =>
    obtain rfl := List.map_eq_nil_iff.1 h.symm
    rfl
  | cons line rest ih =>
    obtain ⟨other, others, rfl, hline, hrest⟩ := List.map_eq_cons_iff.1 h.symm
    rw [parseLines, parseLines, hline]
    simp only [ih hrest.symm]

theorem parseLines_concat_nil (lines : List (List Char)) (n : Nat) :
    parseLines n (lines ++ [[]]) = parseLines n lines := by
  induction lines generalizing n with
  | nil => rfl
  | cons line rest ih =>
    rw [List.cons_append, parseLines, parseLines]
    simp only [ih]

/-- Without the carriage return at its end, if there is one. -/
def dropReturn (line : List Char) : List Char :=
  if line.getLast? = some '\r' then line.dropLast else line

/-- The lines of a text: what comes before each line feed, without the carriage return that may
stand there, and what comes after the last one, unless there is nothing. -/
def textLines (text : String) : List (List Char) :=
  let pieces := text.toList.splitOn '\n'
  pieces.dropLast.map dropReturn ++ (pieces.getLast?.filter (· ≠ [])).toList

theorem Holds.concat_return (h : Holds line content) : Holds (line ++ ['\r']) content := by
  obtain ⟨htidy, lead, trail, comment, rfl, hlead, htrail, hcomment⟩ := h
  refine ⟨htidy, lead, ?_⟩
  -- the carriage return is a blank after the content, or it belongs to the comment
  cases comment with
  | nil =>
    refine ⟨trail ++ ['\r'], [], by simp, hlead, fun c hc => ?_, nofun⟩
    rcases List.mem_append.1 hc with hc | hc
    · exact htrail c hc
    · rw [List.mem_singleton.1 hc]
      decide
  | cons sign rest =>
    exact ⟨trail, sign :: rest ++ ['\r'], by simp, hlead, htrail, hcomment⟩

theorem lineContent_dropReturn (line : List Char) :
    lineContent (dropReturn line) = lineContent line := by
  unfold dropReturn
  split
  · rename_i hreturn
    obtain ⟨before, rfl⟩ := List.getLast?_eq_some_iff.1 hreturn
    rw [List.dropLast_concat]
    exact (holds_iff.1 (holds_lineContent before).concat_return).symm
  · rfl

theorem parseLines_textLines (text : String) (n : Nat) :
    parseLines n (textLines text) = parseLines n (text.toList.splitOn '\n') := by
  have hcontent : ∀ lines : List (List Char),
      (lines.map dropReturn).map lineContent = lines.map lineContent := by
    intro lines
    rw [List.map_map]
    exact List.map_congr_left fun line _ => lineContent_dropReturn line
  unfold textLines
  obtain hnil | ⟨before, last, hpieces⟩ := (text.toList.splitOn '\n').eq_nil_or_concat
  · exact absurd hnil (List.splitOn_ne_nil _ _)
  · simp only [hpieces, List.concat_eq_append, List.dropLast_concat, List.getLast?_concat]
    by_cases hlast : last = []
    · subst hlast
      rw [parseLines_concat_nil]
      exact parseLines_congr (by simp [hcontent]) n
    · exact parseLines_congr (by simp [hcontent, hlast]) n

theorem parse_eq_textLines (text : String) (enginesPerHost : Nat) :
    parse text enginesPerHost = (parseLines 1 (textLines text)).map (⟨·, enginesPerHost⟩) := by
  rw [parse, parseLines_textLines]

theorem not_newline_of_mem_textLines {text : String} (h : line ∈ textLines text) : '\n' ∉ line := by
  have hpiece : ∀ piece ∈ text.toList.splitOn '\n', '\n' ∉ piece := by
    intro piece hpiece hmem
    exact absurd (Text.not_of_mem_splitOnP hpiece _ hmem) (by decide)
  rcases List.mem_append.1 h with h | h
  · obtain ⟨piece, hmem, rfl⟩ := List.mem_map.1 h
    intro hfeed
    refine hpiece piece (List.dropLast_subset _ hmem) ?_
    unfold dropReturn at hfeed
    split at hfeed
    · exact List.dropLast_subset _ hfeed
    · exact hfeed
  · obtain ⟨hlast, -⟩ := Option.filter_eq_some_iff.1 (Option.mem_toList.1 h)
    exact hpiece line (List.mem_of_getLast? hlast)

/-! ## Printing -/

/-- The texts of the patterns are read again. -/
theorem Reads.texts (h : Reads lines patterns) : Reads (patterns.map (·.text.toList)) patterns := by
  induction h with
  | nil => exact .nil
  | blank _ _ ih => exact ih
  | pattern hheld _ hread _ ih =>
    have hagain := hread.proper.readFrom_text
    refine .pattern (tidy_text hread hheld.1).holds_self ?_ hagain ih
    intro hnil
    rw [hnil] at hagain
    exact hagain.1 [] (by simp) rfl

theorem Reads.not_mem_text {c : Char} (h : Reads lines patterns)
    (hlines : ∀ line ∈ lines, c ∉ line) : ∀ p ∈ patterns, c ∉ p.text.toList := by
  induction h with
  | nil => nofun
  | blank _ _ ih => exact ih (List.forall_mem_cons.1 hlines).2
  | pattern hheld _ hread _ ih =>
    obtain ⟨hline, hrest⟩ := List.forall_mem_cons.1 hlines
    refine List.forall_mem_cons.2 ⟨fun hc => ?_, ih hrest⟩
    exact hline (hheld.mem (hread.mem hc))

theorem parse_of_splitOn {text : String} {enginesPerHost : Nat} (h : Reads lines patterns)
    (hsplit : text.toList.splitOn '\n' = lines ∨ text.toList.splitOn '\n' = lines ++ [[]]) :
    parse text enginesPerHost = .ok ⟨patterns, enginesPerHost⟩ := by
  have hlines : parseLines 1 (text.toList.splitOn '\n') = .ok patterns := by
    rcases hsplit with hsplit | hsplit
    · rw [hsplit, h.parseLines_eq]
    · rw [hsplit, parseLines_concat_nil, h.parseLines_eq]
  rw [parse, hlines]
  rfl

theorem toList_fileText_cons (p : Pattern) (rest : List Pattern) (enginesPerHost : Nat) :
    (fileText ⟨p :: rest, enginesPerHost⟩).toList =
      p.text.toList ++ '\n' :: (fileText ⟨rest, enginesPerHost⟩).toList := by
  unfold fileText
  cases rest with
  | nil => simp
  | cons q rest => simp [String.intercalate_cons_cons]

theorem splitOn_fileText (enginesPerHost : Nat) (h : ∀ p ∈ patterns, '\n' ∉ p.text.toList) :
    (fileText ⟨patterns, enginesPerHost⟩).toList.splitOn '\n' =
      patterns.map (·.text.toList) ++ [[]] := by
  induction patterns with
  | nil => rfl
  | cons p rest ih =>
    obtain ⟨hp, hrest⟩ := List.forall_mem_cons.1 h
    rw [toList_fileText_cons, List.splitOn_append_cons_self_of_not_mem hp, ih hrest]
    rfl

theorem splitOn_joined (hne : patterns ≠ []) (h : ∀ p ∈ patterns, '\n' ∉ p.text.toList) :
    ("\n".intercalate (patterns.map Pattern.text)).toList.splitOn '\n' =
      patterns.map (·.text.toList) := by
  have htexts : patterns.map (·.text.toList) = (patterns.map Pattern.text).map String.toList := by
    rw [List.map_map]
    rfl
  rw [String.toList_intercalate, htexts]
  exact Text.splitOn_intercalate (by simpa using hne) (List.forall_mem_map.2 h)

/-- A pattern file is read just where each of its lines is taken; otherwise the first line that is
not taken is told with its number, which counts all lines, and with what is wrong there. The
patterns that are read are those of the lines, in their order, and from their texts, one on a line,
they are read again. -/
theorem reads_exactly (text : String) (enginesPerHost : Nat) :
    ((∃ plan, parse text enginesPerHost = .ok plan) ↔ ∀ line ∈ textLines text, Taken line) ∧
    (∀ before line after, textLines text = before ++ line :: after →
      (∀ other ∈ before, Taken other) → ¬ Taken line →
      ∃ content reason, Holds line content ∧ reason.Explains content ∧
        parse text enginesPerHost = .error ⟨before.length + 1, reason⟩) ∧
    ∀ plan, parse text enginesPerHost = .ok plan →
      plan.enginesPerHost = enginesPerHost ∧ Reads (textLines text) plan.patterns ∧
      parse plan.fileText enginesPerHost = .ok plan ∧
      parse ("\n".intercalate (plan.patterns.map Pattern.text)) enginesPerHost = .ok plan := by
  have hreads : ∀ plan, parse text enginesPerHost = .ok plan →
      plan.enginesPerHost = enginesPerHost ∧ Reads (textLines text) plan.patterns := by
    intro plan hplan
    rw [parse_eq_textLines] at hplan
    obtain ⟨patterns, hlines, rfl⟩ := Keyed.eq_ok_of_map hplan
    exact ⟨rfl, reads_of_parseLines hlines⟩
  refine ⟨?_, ?_, ?_⟩
  · rw [← exists_reads_iff]
    constructor
    · rintro ⟨plan, hplan⟩
      exact ⟨plan.patterns, (hreads plan hplan).2⟩
    · rintro ⟨patterns, h⟩
      rw [parse_eq_textLines, h.parseLines_eq]
      exact ⟨_, rfl⟩
  · intro before line after hlines hbefore hline
    obtain ⟨content, reason, hheld, hexplains, hparse⟩ :=
      parseLines_of_not_taken after hbefore hline 1
    refine ⟨content, reason, hheld, hexplains, ?_⟩
    rw [parse_eq_textLines, hlines, hparse, Nat.add_comm]
    rfl
  · rintro ⟨patterns, engines⟩ hplan
    obtain ⟨rfl, h⟩ := hreads _ hplan
    have hnewline : ∀ p ∈ patterns, '\n' ∉ p.text.toList :=
      h.not_mem_text fun line => not_newline_of_mem_textLines
    refine ⟨rfl, h, parse_of_splitOn h.texts (.inr (splitOn_fileText _ hnewline)), ?_⟩
    by_cases hne : patterns = []
    · subst hne
      exact parse_of_splitOn .nil (.inr rfl)
    · exact parse_of_splitOn h.texts (.inl (splitOn_joined hne hnewline))

/-- A file with comments, blank lines and carriage returns, and one with a pattern of too many
segments in its third line. -/
theorem reads_exactly_third :
    let text := "# sensors\r\n\r\ndevice-status\r\nfengine.spead-rx   # per host\n x.xeng.vacc"
    let plan : Plan := ⟨[.array "device-status", .device 'f' "spead-rx",
      .engineDevice 'x' "xeng" "vacc"], 4⟩
    parse text 4 = .ok plan ∧ Reads (textLines text) plan.patterns ∧
      plan.fileText = "device-status\nf.spead-rx\nx.xeng.vacc\n" ∧
      parse plan.fileText 4 = .ok plan ∧
      ∃ content reason, Holds " f.a.b.c # four".toList content ∧
        PatternError.Explains content reason ∧
        parse "device-status\n\n f.a.b.c # four\nx..vacc" 4 = .error ⟨3, reason⟩ := by
  intro text plan
  have hplan : parse text 4 = .ok plan := by decide +kernel
  obtain ⟨-, hreads, hprinted, -⟩ := (reads_exactly text 4).2.2 plan hplan
  have hbefore : ∀ other ∈ ["device-status".toList, []], Taken other := by
    have hlines : textLines "device-status\n\n" = ["device-status".toList, []] := by decide +kernel
    have hread : parse "device-status\n\n" 4 = .ok ⟨[.array "device-status"], 4⟩ := by
      decide +kernel
    rw [← hlines]
    exact (reads_exactly _ 4).1.1 ⟨_, hread⟩
  have hline : ¬ Taken " f.a.b.c # four".toList := by
    have hlines : textLines " f.a.b.c # four" = [" f.a.b.c # four".toList] := by decide +kernel
    have hread : (parse " f.a.b.c # four" 4).isOk = false := by decide +kernel
    intro htaken
    obtain ⟨other, hother⟩ := (reads_exactly " f.a.b.c # four" 4).1.2
      (by rw [hlines]; exact List.forall_mem_singleton.2 htaken)
    rw [hother] at hread
    contradiction
  obtain ⟨-, herror, -⟩ := reads_exactly "device-status\n\n f.a.b.c # four\nx..vacc" 4
  exact ⟨hplan, hreads, by decide +kernel, hprinted,
    herror ["device-status".toList, []] _ ["x..vacc".toList] (by decide +kernel) hbefore hline⟩

end Plan

end ArrayWatch
