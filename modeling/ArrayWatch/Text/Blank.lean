/-!
# Blank characters

The characters with the Unicode property White_Space, and texts without them at their ends.

* `trimWhile_eq_self`, `trimWhile_append`: what is left where nothing at the ends is of the class
  that is dropped, and where something around it is.
* `trimmed_trimWhile`, `exists_trimWhile`: what is left and what is dropped of any text.
-/

namespace ArrayWatch.Text

/-- The White_Space property. -/
def isBlank (c : Char) : Bool :=
  let n := c.toNat
  (0x09 ≤ n && n ≤ 0x0D) || n == 0x20 || n == 0x85 || n == 0xA0 || n == 0x1680 ||
    (0x2000 ≤ n && n ≤ 0x200A) || n == 0x2028 || n == 0x2029 || n == 0x202F || n == 0x205F ||
    n == 0x3000

theorem isBlank_of_isDigit {c : Char} (h : c.isDigit = true) : isBlank c = false := by
  have hrange : 0x30 ≤ c.toNat ∧ c.toNat ≤ 0x39 := by
    simpa [Char.isDigit, UInt32.le_iff_toNat_le] using h
  simp only [isBlank, Bool.or_eq_false_iff, Bool.and_eq_false_iff, decide_eq_false_iff_not,
    beq_eq_false_iff_ne]
  omega

/-- Drops the characters of the class `p` at the end. -/
def trimEndWhile (p : Char → Bool) (cs : List Char) : List Char :=
  (cs.reverse.dropWhile p).reverse

/-- Drops the characters of the class `p` at both ends. -/
def trimWhile (p : Char → Bool) (cs : List Char) : List Char :=
  trimEndWhile p (cs.dropWhile p)

/-- Drops the blank characters at both ends. -/
def trim (cs : List Char) : List Char :=
  trimWhile isBlank cs

/-! ## What is left -/

/-- There is no character of the class `p` at an end. -/
structure Trimmed (p : Char → Bool) (cs : List Char) : Prop where
  first : ∀ c ∈ cs.head?, p c = false
  last : ∀ c ∈ cs.getLast?, p c = false

section Trimming

variable {p : Char → Bool} {c : Char} {cs : List Char}

theorem trimEndWhile_concat_of_neg (h : p c = false) (cs : List Char) :
    trimEndWhile p (cs ++ [c]) = cs ++ [c] := by
  simp [trimEndWhile, h]

theorem trimEndWhile_concat_of_pos (h : p c = true) (cs : List Char) :
    trimEndWhile p (cs ++ [c]) = trimEndWhile p cs := by
  simp [trimEndWhile, h]

theorem trimEndWhile_sublist (p : Char → Bool) (cs : List Char) :
    (trimEndWhile p cs).Sublist cs := by
  have h := (List.dropWhile_sublist p (l := cs.reverse)).reverse
  rwa [List.reverse_reverse] at h

theorem trimWhile_cons_of_pos (h : p c = true) (cs : List Char) :
    trimWhile p (c :: cs) = trimWhile p cs := by
  unfold trimWhile
  rw [List.dropWhile_cons_of_pos h]

theorem dropWhile_eq_self (h : ∀ c ∈ cs.head?, p c = false) : cs.dropWhile p = cs := by
  cases cs with
  | nil => rfl
  | cons c rest => exact List.dropWhile_cons_of_neg (by simp [h c rfl])

theorem trimEndWhile_eq_self (h : ∀ c ∈ cs.getLast?, p c = false) : trimEndWhile p cs = cs := by
  unfold trimEndWhile
  rw [dropWhile_eq_self, List.reverse_reverse]
  rwa [List.head?_reverse]

theorem trimWhile_eq_self (hfirst : ∀ c ∈ cs.head?, p c = false)
    (hlast : ∀ c ∈ cs.getLast?, p c = false) : trimWhile p cs = cs := by
  unfold trimWhile
  rw [dropWhile_eq_self hfirst, trimEndWhile_eq_self hlast]

theorem trimEndWhile_append_of_pos {trail : List Char} (h : ∀ c ∈ trail, p c = true)
    (cs : List Char) : trimEndWhile p (cs ++ trail) = trimEndWhile p cs := by
  unfold trimEndWhile
  rw [List.reverse_append, List.dropWhile_append_of_pos]
  intro c hc
  exact h c (List.mem_reverse.1 hc)

/-- What is around a text is dropped where the text begins and ends otherwise. -/
theorem trimWhile_append {lead trail : List Char} (hlead : ∀ c ∈ lead, p c = true)
    (htrail : ∀ c ∈ trail, p c = true) (hcs : Trimmed p cs) :
    trimWhile p (lead ++ (cs ++ trail)) = cs := by
  unfold trimWhile
  rw [List.dropWhile_append_of_pos hlead]
  cases cs with
  | nil =>
    rw [List.nil_append, ← List.append_nil trail, List.dropWhile_append_of_pos htrail]
    rfl
  | cons c rest =>
    have hdrop : (c :: rest ++ trail).dropWhile p = c :: rest ++ trail :=
      dropWhile_eq_self hcs.first
    rw [hdrop, trimEndWhile_append_of_pos htrail, trimEndWhile_eq_self hcs.last]

/-! ## What is dropped -/

theorem head?_dropWhile_of_some {c : Char} (h : (cs.dropWhile p).head? = some c) : p c = false := by
  have hfirst := List.head?_dropWhile_not p cs
  rw [h] at hfirst
  simpa using hfirst

theorem exists_trimEndWhile (p : Char → Bool) (cs : List Char) :
    ∃ trail, cs = trimEndWhile p cs ++ trail ∧ ∀ c ∈ trail, p c = true := by
  refine ⟨(cs.reverse.takeWhile p).reverse, ?_, ?_⟩
  · rw [trimEndWhile, ← List.reverse_append, List.takeWhile_append_dropWhile, List.reverse_reverse]
  · intro c hc
    exact List.all_eq_true.1 List.all_takeWhile c (List.mem_reverse.1 hc)

theorem trimmed_trimWhile (p : Char → Bool) (cs : List Char) : Trimmed p (trimWhile p cs) := by
  constructor
  · intro c hc
    obtain ⟨trail, hkept, -⟩ := exists_trimEndWhile p (cs.dropWhile p)
    have hfirst : (cs.dropWhile p).head? = some c := by
      rw [hkept, List.head?_append, Option.or_eq_some_iff]
      exact .inl hc
    exact head?_dropWhile_of_some hfirst
  · intro c hc
    rw [trimWhile, trimEndWhile, List.getLast?_reverse] at hc
    exact head?_dropWhile_of_some hc

/-- What is dropped at the ends. -/
theorem exists_trimWhile (p : Char → Bool) (cs : List Char) :
    ∃ lead trail, cs = lead ++ (trimWhile p cs ++ trail) ∧ (∀ c ∈ lead, p c = true) ∧
      ∀ c ∈ trail, p c = true := by
  obtain ⟨trail, hkept, htrail⟩ := exists_trimEndWhile p (cs.dropWhile p)
  refine ⟨cs.takeWhile p, trail, ?_, List.all_eq_true.1 List.all_takeWhile, htrail⟩
  rw [trimWhile, ← hkept, List.takeWhile_append_dropWhile]

end Trimming

end ArrayWatch.Text
