import ArrayWatch.Link.Scripted
import ArrayWatch.Proofs.HostPayloads

/-!
# Input labels, group by group

The reader of a labelling looks for an opening parenthesis, and from there for the next closing one.
So every text falls into groups, with gaps between them in which there is no opening parenthesis,
and perhaps a last group that is not closed. Every group is read for itself. A labelling that is
written with the label in quotes, the number, and further fields behind them is read back, unless
its labels have a character in them by which fields, groups or quotes end.

* `InputLabel.Cut`: how a text falls into groups. `InputLabel.ofChars_eq`: what is read from it.
* `LabelTuple.ofText_render`: a labelling is read back.
* `SensorTree.applyLabels_eq`: every channeliser has the last label for it.
* `ArrayMoment.labelling_by_groups` puts these together for the array of any run.
-/

namespace ArrayWatch

namespace InputLabel

/-! ## Groups -/

/-- A text, its groups in the order in which they stand, and what follows the opening parenthesis of
a last group that is not closed. -/
inductive Cut : List Char → List (List Char) → Option (List Char) → Prop
  | done {gap : List Char} (hgap : '(' ∉ gap) : Cut gap [] none
  | unterminated {gap tail : List Char} (hgap : '(' ∉ gap) (htail : ')' ∉ tail) :
      Cut (gap ++ '(' :: tail) [] (some tail)
  | group {gap group rest : List Char} {groups : List (List Char)} {tail : Option (List Char)}
      (hgap : '(' ∉ gap) (hgroup : ')' ∉ group) (hrest : Cut rest groups tail) :
      Cut (gap ++ '(' :: (group ++ ')' :: rest)) (group :: groups) tail

theorem cut?_of_not_mem {c : Char} {cs : List Char} (h : c ∉ cs) : cut? c cs = none := by
  have hall : ∀ d ∈ cs, (d != c) = true := fun d hd => bne_iff_ne.2 fun heq => h (heq ▸ hd)
  have hdrop : cs.dropWhile (· != c) = [] := by
    rw [← List.append_nil cs, List.dropWhile_append_of_pos hall]
    rfl
  unfold cut?
  rw [hdrop]

theorem cut?_append {c : Char} {before : List Char} (h : c ∉ before) (after : List Char) :
    cut? c (before ++ c :: after) = some (before, after) := by
  have hall : ∀ d ∈ before, (d != c) = true := fun d hd => bne_iff_ne.2 fun heq => h (heq ▸ hd)
  have hdrop : (before ++ c :: after).dropWhile (· != c) = c :: after := by
    rw [List.dropWhile_append_of_pos hall]
    exact List.dropWhile_cons_of_neg (by simp)
  have htake : (before ++ c :: after).takeWhile (· != c) = before := by
    rw [List.takeWhile_append_of_pos hall, List.takeWhile_cons_of_neg (by simp), List.append_nil]
  unfold cut?
  rw [hdrop, htake]

theorem ofChars_gap {gap : List Char} (hgap : '(' ∉ gap) : ofChars gap = [] := by
  unfold ofChars
  rw [cut?_of_not_mem hgap]

theorem ofChars_unterminated {gap tail : List Char} (hgap : '(' ∉ gap) (htail : ')' ∉ tail) :
    ofChars (gap ++ '(' :: tail) = [.error (.unterminatedLabel (.ofList tail))] := by
  unfold ofChars
  rw [cut?_append hgap]
  dsimp only
  rw [cut?_of_not_mem htail]

theorem ofChars_group {gap group : List Char} (hgap : '(' ∉ gap) (hgroup : ')' ∉ group)
    (rest : List Char) :
    ofChars (gap ++ '(' :: (group ++ ')' :: rest)) = ofGroup group :: ofChars rest := by
  rw [ofChars, cut?_append hgap]
  dsimp only
  rw [cut?_append hgroup]

/-- Every text falls into groups. -/
theorem exists_cut (cs : List Char) : ∃ groups tail, Cut cs groups tail := by
  generalize hlength : cs.length = n
  induction n using Nat.strongRecOn generalizing cs with
  | ind n ih =>
    by_cases hopening : '(' ∈ cs
    · obtain ⟨gap, after, rfl, hgap⟩ := List.eq_append_cons_of_mem hopening
      by_cases hclosing : ')' ∈ after
      · obtain ⟨group, rest, rfl, hgroup⟩ := List.eq_append_cons_of_mem hclosing
        simp only [List.length_append, List.length_cons] at hlength
        obtain ⟨groups, tail, hrest⟩ := ih rest.length (by omega) rest rfl
        exact ⟨group :: groups, tail, .group hgap hgroup hrest⟩
      · exact ⟨[], some after, .unterminated hgap hclosing⟩
    · exact ⟨[], none, .done hopening⟩

/-- Every group of a text is read for itself, and a last one that is not closed is a failure. -/
theorem ofChars_eq {cs : List Char} {groups : List (List Char)} {tail : Option (List Char)}
    (h : Cut cs groups tail) :
    ofChars cs = groups.map ofGroup ++
      (tail.map fun tail => .error (.unterminatedLabel (.ofList tail))).toList := by
  induction h with
  | done hgap => exact ofChars_gap hgap
  | unterminated hgap htail => exact ofChars_unterminated hgap htail
  | group hgap hgroup _ ih =>
    rw [ofChars_group hgap hgroup, ih]
    rfl

end InputLabel

/-! ## Tuples -/

/-- A tuple of a labelling: the label and the number of an input, and what else is told of it. -/
structure LabelTuple where
  label : String
  input : Nat
  extras : List String
  deriving DecidableEq, Repr

namespace LabelTuple

/-- A tuple as text, without the parentheses. -/
def body (t : LabelTuple) : String :=
  "'" ++ t.label ++ "', " ++ toString t.input ++ String.join (t.extras.map (", " ++ ·))

/-- A labelling as text. -/
def render (tuples : List LabelTuple) : String :=
  "[" ++ ", ".intercalate (tuples.map fun t => "(" ++ t.body ++ ")") ++ "]"

/-- The label has no character by which a field, a group or a quotation ends, the number fits in a
word, and no further field ends the group. -/
structure Plain (t : LabelTuple) : Prop where
  nonempty : t.label ≠ ""
  comma : ',' ∉ t.label.toList
  closing : ')' ∉ t.label.toList
  first : t.label.toList.head? ≠ some '\'' ∧ t.label.toList.head? ≠ some '"'
  last : t.label.toList.getLast? ≠ some '\'' ∧ t.label.toList.getLast? ≠ some '"'
  input : t.input < UInt64.size
  extras : ∀ extra ∈ t.extras, ')' ∉ extra.toList

/-- The first field. -/
def quotedLabel (t : LabelTuple) : List Char := '\'' :: (t.label.toList ++ ['\''])

/-- What stands behind the number. -/
def further (t : LabelTuple) : List Char :=
  t.extras.flatMap fun extra => ", ".toList ++ extra.toList

theorem toList_body (t : LabelTuple) :
    t.body.toList = t.quotedLabel ++ ',' :: (' ' :: Decimal.write t.input ++ t.further) := by
  have hfurther : (String.join (t.extras.map (", " ++ ·))).toList = t.further := by
    rw [String.toList_join, List.flatMap_map]
    exact List.flatMap_congr fun extra _ => String.toList_append
  unfold body quotedLabel
  simp only [String.toList_append, Decimal.toList_toString, hfurther]
  simp

/-! ### One tuple -/

variable {t : LabelTuple}

theorem Plain.closing_not_mem_body (h : t.Plain) : ')' ∉ t.body.toList := by
  have hnumber : ')' ∉ Decimal.write t.input := Decimal.not_mem_write (by decide) _
  have hfurther : ')' ∉ t.further := by
    intro hmem
    obtain ⟨extra, hextra, hmem⟩ := List.mem_flatMap.1 hmem
    rcases List.mem_append.1 hmem with hsep | hmem
    · exact absurd hsep (by decide)
    · exact h.extras extra hextra hmem
  rw [toList_body, quotedLabel]
  simp [h.closing, hnumber, hfurther]

/-- The label is read without its quotes. -/
theorem Plain.fieldText_label (h : t.Plain) :
    InputLabel.fieldText t.quotedLabel = t.label.toList := by
  have htrim : Text.trim t.quotedLabel = t.quotedLabel := by
    apply Text.trimWhile_eq_self
    · intro c hc
      obtain rfl := Option.some.inj hc
      decide
    · intro c hc
      rw [quotedLabel, ← List.cons_append, List.getLast?_concat] at hc
      obtain rfl := Option.some.inj hc
      decide
  have hquote : ∀ end? : Option Char, end? ≠ some '\'' ∧ end? ≠ some '"' →
      ∀ c ∈ end?, (c == '\'' || c == '"') = false := by
    rintro _ ⟨hsingle, hdouble⟩ c rfl
    rw [Bool.or_eq_false_iff, beq_eq_false_iff_ne, beq_eq_false_iff_ne]
    exact ⟨fun heq => hsingle (congrArg some heq), fun heq => hdouble (congrArg some heq)⟩
  have hends : ∀ c ∈ ['\''], (c == '\'' || c == '"') = true := List.forall_mem_singleton.2 rfl
  unfold InputLabel.fieldText
  rw [htrim]
  exact Text.trimWhile_append hends hends ⟨hquote _ h.first, hquote _ h.last⟩

/-- The number is read without the blank before it. -/
theorem fieldText_number (n : Nat) :
    InputLabel.fieldText (' ' :: Decimal.write n) = Decimal.write n := by
  -- no digit is of a class that is dropped
  have hself : ∀ p : Char → Bool, (∀ c : Char, c.isDigit = true → p c = false) →
      Text.trimWhile p (Decimal.write n) = Decimal.write n := by
    intro p hp
    have hwrite : ∀ c ∈ Decimal.write n, p c = false :=
      fun c hc => hp c (Decimal.isDigit_of_mem_write hc)
    exact Text.trimWhile_eq_self (fun c hc => hwrite c (List.mem_of_mem_head? hc))
      (fun c hc => hwrite c (List.mem_of_mem_getLast? hc))
  have htrim : Text.trim (' ' :: Decimal.write n) = Decimal.write n :=
    (Text.trimWhile_cons_of_pos (by decide) _).trans (hself _ fun c => Text.isBlank_of_isDigit)
  unfold InputLabel.fieldText
  rw [htrim]
  apply hself
  intro c hc
  rw [Bool.or_eq_false_iff, beq_eq_false_iff_ne, beq_eq_false_iff_ne]
  constructor
  · rintro rfl
    exact absurd hc (by decide)
  · rintro rfl
    exact absurd hc (by decide)

theorem Plain.splitOn_body (h : t.Plain) : ∃ more, t.body.toList.splitOn ',' =
    t.quotedLabel :: (' ' :: Decimal.write t.input) :: more := by
  have hlabel : ',' ∉ t.quotedLabel := by simp [quotedLabel, h.comma]
  have hnumber : ',' ∉ ' ' :: Decimal.write t.input := by
    rw [List.mem_cons, not_or]
    exact ⟨by decide, Decimal.not_mem_write (by decide) _⟩
  rw [toList_body, List.splitOn_append_cons_self_of_not_mem hlabel]
  cases hextras : t.extras with
  | nil =>
    have hfurther : t.further = [] := by rw [further, hextras]; rfl
    rw [hfurther, List.append_nil, List.splitOn_eq_singleton hnumber]
    exact ⟨[], rfl⟩
  | cons extra rest =>
    have hfurther : ∃ more, t.further = ',' :: more := by rw [further, hextras]; exact ⟨_, rfl⟩
    obtain ⟨more, hmore⟩ := hfurther
    rw [hmore, List.splitOn_append_cons_self_of_not_mem hnumber]
    exact ⟨_, rfl⟩

theorem Plain.ofGroup_body (h : t.Plain) :
    InputLabel.ofGroup t.body.toList = .ok ⟨t.label, t.input⟩ := by
  obtain ⟨more, hsplit⟩ := h.splitOn_body
  have hread : Decimal.read? Decimal.word64 (Decimal.write t.input) = some t.input :=
    Decimal.read?_write (Nat.le_of_lt_succ h.input)
  have hne : ¬ t.label.toList.isEmpty = true := by
    rw [List.isEmpty_iff, String.toList_eq_nil_iff]
    exact h.nonempty
  unfold InputLabel.ofGroup
  rw [hsplit, List.map_cons, List.map_cons, h.fieldText_label, fieldText_number]
  dsimp only
  rw [hread]
  dsimp only
  rw [if_neg hne, String.ofList_toList]

/-! ### A whole labelling -/

theorem toList_intercalate_cons (separator first : String) (rest : List String) :
    (separator.intercalate (first :: rest)).toList =
      first.toList ++ rest.flatMap fun other => separator.toList ++ other.toList := by
  induction rest generalizing first with
  | nil => simp
  | cons other rest ih =>
    rw [String.intercalate_cons_cons, String.toList_append, ih, List.flatMap_cons,
      String.toList_append, List.append_assoc, List.append_assoc]

/-- The tuples after the first one, each with the separator before it, and the closing bracket. -/
def followers (tuples : List LabelTuple) : List Char :=
  (tuples.flatMap fun t => ", ".toList ++ ("(" ++ t.body ++ ")").toList) ++ [']']

theorem followers_cons (t : LabelTuple) (rest : List LabelTuple) :
    followers (t :: rest) = ", ".toList ++ '(' :: (t.body.toList ++ ')' :: followers rest) := by
  simp [followers]

theorem toList_render_cons (t : LabelTuple) (rest : List LabelTuple) :
    (render (t :: rest)).toList =
      "[".toList ++ '(' :: (t.body.toList ++ ')' :: followers rest) := by
  unfold render
  rw [List.map_cons, String.toList_append, String.toList_append, toList_intercalate_cons,
    List.flatMap_map]
  simp [followers]

theorem cut_followers {tuples : List LabelTuple} (h : ∀ t ∈ tuples, t.Plain) :
    InputLabel.Cut (followers tuples) (tuples.map fun t => t.body.toList) none := by
  induction tuples with
  | nil => exact .done (by decide)
  | cons t rest ih =>
    obtain ⟨ht, hrest⟩ := List.forall_mem_cons.1 h
    rw [followers_cons]
    exact .group (by decide) ht.closing_not_mem_body (ih hrest)

theorem cut_render {tuples : List LabelTuple} (h : ∀ t ∈ tuples, t.Plain) :
    InputLabel.Cut (render tuples).toList (tuples.map fun t => t.body.toList) none := by
  cases tuples with
  | nil => exact .done (by decide)
  | cons t rest =>
    obtain ⟨ht, hrest⟩ := List.forall_mem_cons.1 h
    rw [toList_render_cons]
    exact .group (by decide) ht.closing_not_mem_body (cut_followers hrest)

/-- A labelling is read back. -/
theorem ofText_render {tuples : List LabelTuple} (h : ∀ t ∈ tuples, t.Plain) :
    InputLabel.ofText (render tuples) = tuples.map fun t => .ok ⟨t.label, t.input⟩ := by
  unfold InputLabel.ofText
  rw [InputLabel.ofChars_eq (cut_render h), List.map_map]
  exact (List.append_nil _).trans (List.map_congr_left fun t ht => (h t ht).ofGroup_body)

end LabelTuple

/-! ## Labels of the channelisers -/

namespace InputLabel

/-- The label that a tuple brings to a host. -/
def labelFor? (id : HostId) : Except InformError InputLabel → Option String
  | .ok label =>
    if id.team = channeliserTeam ∧ label.input = 2 * id.index then some label.label else none
  | .error _ => none

/-- Whether a tuple cannot be read, or has an even number behind those of all antennas. -/
def isFaulty (antennas : Nat) : Except InformError InputLabel → Bool
  | .ok label => decide (label.input % 2 = 0 ∧ antennas ≤ label.input / 2)
  | .error _ => true

theorem labelFor?_of_even {label : InputLabel} (h : label.input % 2 = 0) (id : HostId) :
    labelFor? id (.ok label) =
      if id = ⟨channeliserTeam, label.input / 2⟩ then some label.label else none := by
  have hid : id.team = channeliserTeam ∧ label.input = 2 * id.index ↔
      id = ⟨channeliserTeam, label.input / 2⟩ := by
    constructor
    · rintro ⟨hteam, hinput⟩
      rw [hinput, Nat.mul_div_cancel_left _ (by decide), ← hteam]
    · rintro rfl
      exact ⟨rfl, by dsimp only; omega⟩
  dsimp only [labelFor?]
  by_cases hfor : id = ⟨channeliserTeam, label.input / 2⟩
  · rw [if_pos hfor, if_pos (hid.2 hfor)]
  · rw [if_neg hfor, if_neg fun h => hfor (hid.1 h)]

theorem labelFor?_of_odd {label : InputLabel} (h : ¬ label.input % 2 = 0) (id : HostId) :
    labelFor? id (.ok label) = none := by
  apply if_neg
  rintro ⟨-, hinput⟩
  omega

end InputLabel

namespace SensorTree

variable {t : SensorTree} {antennas : Nat}

theorem Served.has_channeliser_iff (h : t.Served antennas) (index : Nat) :
    t.Has ⟨channeliserTeam, index⟩ ↔ index < t.antennas :=
  and_iff_right h.channelisers

/-- A channeliser is labelled without a team being made for it. -/
theorem Served.setInputLabel_eq (h : t.Served antennas) (index : Nat) (label : String) :
    t.setInputLabel index label =
      t.orElse (t.modifyTeam channeliserTeam
        (·.modify index fun host => .ok (host.setInputLabel label))) := by
  have hensured := ensureTeam_eq_self h.channelisers
  unfold setInputLabel modifyTeamEnsured
  rw [hensured]
  rfl

theorem applyLabel_eq (h : t.Served antennas) (label : Except InformError InputLabel) :
    t.applyLabel label =
      (t.overwrite (fun label host => host.setInputLabel label) (InputLabel.labelFor? · label),
        (InputLabel.isFaulty t.antennas label).toNat) := by
  cases label with
  | error e => exact congrArg (·, 1) t.overwrite_none.symm
  | ok label =>
    by_cases heven : label.input % 2 = 0
    · have hhost : label.host? = some (label.input / 2) := if_pos heven
      have hword := funext (InputLabel.labelFor?_of_even heven)
      have hcases := overwrite_cases (fun label host => host.setInputLabel label) h.sound
        ⟨channeliserTeam, label.input / 2⟩ label.label
      dsimp only [applyLabel, InputLabel.isFaulty]
      rw [hhost, hword]
      dsimp only
      rw [h.setInputLabel_eq]
      rw [h.has_channeliser_iff] at hcases
      rcases hcases with ⟨hwithin, hresult⟩ | ⟨hbeyond, hsame, e, hresult⟩
      · have hfine : ¬ (label.input % 2 = 0 ∧ t.antennas ≤ label.input / 2) :=
          fun h => Nat.not_le.2 hwithin h.2
        rw [hresult, decide_eq_false hfine]
        rfl
      · have hfault : label.input % 2 = 0 ∧ t.antennas ≤ label.input / 2 :=
          ⟨heven, Nat.not_lt.1 hbeyond⟩
        rw [hresult, decide_eq_true hfault]
        exact congrArg (·, 1) hsame.symm
    · have hhost : label.host? = none := if_neg heven
      have hword := funext (InputLabel.labelFor?_of_odd heven)
      have hfine : ¬ (label.input % 2 = 0 ∧ t.antennas ≤ label.input / 2) := fun h => heven h.1
      dsimp only [applyLabel, InputLabel.isFaulty]
      rw [hhost, hword, decide_eq_false hfine]
      exact congrArg (·, 0) t.overwrite_none.symm

/-- Every channeliser has the last label for it. -/
theorem applyLabels_eq (h : t.Served antennas) (labels : List (Except InformError InputLabel)) :
    t.applyLabels labels =
      (t.mapHosts fun host => { host with
        inputStream := ((lastWord? (InputLabel.labelFor? host.id) labels).map fun label =>
          String.ofList label.toList.dropLast).getD host.inputStream },
        labels.countP (InputLabel.isFaulty antennas)) := by
  have happly : t.applyLabels labels =
      (t.overwrite (fun label host => host.setInputLabel label) fun id =>
        lastWord? (InputLabel.labelFor? id) labels, _) :=
    takeAll_eq Host.register_setInputLabel (fun _ => rfl) (fun _ _ _ => rfl)
      (fun _ label h => applyLabel_eq h label) (fun _ _ => rfl) h labels
  rw [happly, h.antennas]
  refine congrArg (t.mapHosts ·, _) (funext fun host => ?_)
  dsimp only
  cases lastWord? (InputLabel.labelFor? host.id) labels <;> rfl

end SensorTree

namespace ArrayMoment

/-- A labelling that is written from plain tuples is read back. Of any text, every group from an
opening parenthesis to the next closing one is read for itself, and a last one that is not closed is
a failure: the text falls into groups, they determine what is read, and a group that cannot be read
hides nothing of what follows. Whatever happened to an array before: a text leaves every channeliser
with the label of the last tuple that has its number, doubled, without the last character, or with
the one that it had, and changes nothing else. The tuples that cannot be read, or have an even
number behind those of all antennas, are counted. -/
theorem labelling_by_groups {tuples : List LabelTuple} (htuples : ∀ t ∈ tuples, t.Plain)
    {ν : Type} [Network ν] (spec : Announcement) (cmcAddress : String) (plan : Plan)
    (maxRetries : UInt32) (control monitor : Link) (world : World ν) (acts : List (ArrayAct ν))
    (status text : String) (missing : Nat) (metrics : Metrics) :
    let a := ((start spec cmcAddress plan maxRetries control monitor world).run acts).array
    let labels := InputLabel.ofText text
    let informed := a.controlReport ⟨"input-labelling", status, text, missing⟩ metrics
    InputLabel.ofText (LabelTuple.render tuples) = tuples.map (fun t => .ok ⟨t.label, t.input⟩) ∧
      ((∃ groups tail, InputLabel.Cut text.toList groups tail) ∧
        (∀ groups tail, InputLabel.Cut text.toList groups tail →
          labels = groups.map InputLabel.ofGroup ++
            (tail.map fun tail => .error (.unterminatedLabel (.ofList tail))).toList) ∧
        ∀ gap group rest : String, '(' ∉ gap.toList → ')' ∉ group.toList →
          text = gap ++ "(" ++ group ++ ")" ++ rest →
          labels = InputLabel.ofGroup group.toList :: InputLabel.ofText rest) ∧
      (∀ k, (a.tree.host? ⟨'f', k⟩).isSome ↔ k < spec.antennas) ∧
      informed.1 = { a with
        tree := a.tree.mapHosts fun host => { host with
          inputStream := ((lastWord? (InputLabel.labelFor? host.id) labels).map fun label =>
            String.ofList label.toList.dropLast).getD host.inputStream } } ∧
      informed.2.malformedInforms.value ["input_labelling"] =
        metrics.malformedInforms.value ["input_labelling"] +
          labels.countP (InputLabel.isFaulty spec.antennas) := by
  intro a labels informed
  obtain ⟨-, hserved⟩ := served spec cmcAddress plan maxRetries control monitor world acts
  have hset : a.setInputLabels text = ({ a with
      tree := a.tree.mapHosts fun host => { host with
        inputStream := ((lastWord? (InputLabel.labelFor? host.id) labels).map fun label =>
          String.ofList label.toList.dropLast).getD host.inputStream } },
      labels.countP (InputLabel.isFaulty spec.antennas)) := by
    have happly := SensorTree.applyLabels_eq hserved labels
    unfold CorrelatorArray.setInputLabels
    rw [happly]
  have hinformed : informed = ((a.setInputLabels text).1,
      metrics.malformed "input_labelling" (a.setInputLabels text).2) := rfl
  refine ⟨LabelTuple.ofText_render htuples, ⟨InputLabel.exists_cut _, ?_, ?_⟩, ?_, ?_, ?_⟩
  · intro groups tail hcut
    exact InputLabel.ofChars_eq hcut
  · intro gap group rest hgap hgroup htext
    have hchars : text.toList = gap.toList ++ '(' :: (group.toList ++ ')' :: rest.toList) := by
      rw [htext]
      simp
    show InputLabel.ofChars text.toList = _
    rw [hchars]
    exact InputLabel.ofChars_group hgap hgroup rest.toList
  · intro k
    rw [hserved.sound.isSome_host?_iff, ← hserved.antennas]
    exact hserved.has_channeliser_iff k
  · rw [hinformed, hset]
  · rw [hinformed, hset]
    exact metrics.value_malformed "input_labelling" _

/-- A label with a quote and a parenthesis in it, a further field that opens a parenthesis, and the
greatest number of a word. -/
theorem labelling_by_groups_quoted :
    let tuples : List LabelTuple :=
      [⟨"m000h", 0, ["'skarab020304-01'", "0"]⟩, ⟨"mü'(h", 2, ["(", ""]⟩,
        ⟨"m001v", 18446744073709551615, []⟩]
    (∀ t ∈ tuples, t.Plain) ∧
      LabelTuple.render tuples =
        "[('m000h', 0, 'skarab020304-01', 0), ('mü'(h', 2, (, ), ('m001v', 18446744073709551615)]" ∧
      InputLabel.ofText (LabelTuple.render tuples) =
        [.ok ⟨"m000h", 0⟩, .ok ⟨"mü'(h", 2⟩, .ok ⟨"m001v", 18446744073709551615⟩] := by
  intro tuples
  have htuples : ∀ t ∈ tuples, t.Plain := by
    simp only [tuples, List.forall_mem_cons]
    refine ⟨⟨?_, ?_, ?_, ?_, ?_, ?_, ?_⟩, ⟨?_, ?_, ?_, ?_, ?_, ?_, ?_⟩,
      ⟨?_, ?_, ?_, ?_, ?_, ?_, ?_⟩, fun _ h => absurd h List.not_mem_nil⟩
    all_goals decide
  exact ⟨htuples, by decide, (labelling_by_groups htuples ⟨"yard", 7148, 7149, 1⟩ "cmc" ⟨[], 4⟩ 0
    ⟨0, "cmc:7148"⟩ ⟨1, "cmc:7149"⟩ (⟨⟨[]⟩, .zero⟩ : World ScriptedNetwork) [] "nominal" "" 0
    .zero).1⟩

end ArrayMoment

end ArrayWatch
