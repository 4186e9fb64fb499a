import ArrayWatch.Proofs.SensorNames
import Mathlib.Data.String.Basic

/-!
# The grammar of sensor names

A name is read if it has one, three or four segments, none of them empty, and the first of three or
four spells a host: a letter, the word `host`, and two or more digits of a number of 64 bits. The
segments are the parts of the place then. So the names of a place are its text and the same text
with more zeros in front of the number of the host, and no other ones.

* `Decimal.exists_zeros`: two or more digits are those that their value is written with, and zeros.
* `SensorPath.parse_eq_ok_iff`: what is read, by the segments of the name.
* `SensorPath.parse_eq_ok_iff_spelling`: the names of a place.
* `SensorPath.name_grammar`: when a name is read and as what, and how it is written again.
-/

namespace ArrayWatch

/-! ## Leading zeros -/

namespace Decimal

theorem isDigit_of_mem_writePadded {n : Nat} {c : Char} (h : c ∈ writePadded n) :
    c.isDigit = true := by
  unfold writePadded at h
  split at h
  · rcases List.mem_cons.1 h with rfl | h
    · decide
    · exact isDigit_of_mem_write h
  · exact isDigit_of_mem_write h

theorem digitChar_of_isDigit {c : Char} (h : c.isDigit = true) :
    c.toNat - '0'.toNat < 10 ∧ Nat.digitChar (c.toNat - '0'.toNat) = c := by
  obtain ⟨hleast, hgreatest⟩ : '0'.toNat ≤ c.toNat ∧ c.toNat ≤ '0'.toNat + 9 := by
    simpa [Char.isDigit, UInt32.le_iff_toNat_le] using h
  have hlt : c.toNat - '0'.toNat < 10 := by omega
  refine ⟨hlt, Char.toNat_inj.1 ?_⟩
  rw [Nat.toNat_digitChar_of_lt_ten hlt]
  exact Nat.add_sub_cancel' hleast

theorem write_digit {c : Char} (h : c.isDigit = true) : write (c.toNat - '0'.toNat) = [c] := by
  obtain ⟨hlt, hc⟩ := digitChar_of_isDigit h
  rw [write, Nat.toDigits_of_lt_base hlt, hc]

/-- Digits after the digits of a number go on with it. -/
theorem write_append {n : Nat} (hn : 0 < n) {cs : List Char} (h : ∀ c ∈ cs, c.isDigit = true) :
    write n ++ cs = write (Nat.ofDigitChars 10 cs n) := by
  induction cs generalizing n with
  | nil => simp
  | cons c cs ih =>
    have hc := h c List.mem_cons_self
    have hcs : ∀ c ∈ cs, c.isDigit = true := fun c hc => h c (List.mem_cons_of_mem _ hc)
    calc write n ++ c :: cs
        = write n ++ write (c.toNat - '0'.toNat) ++ cs := by
          rw [write_digit hc, List.append_assoc, List.singleton_append]
      _ = write (10 * n + (c.toNat - '0'.toNat)) ++ cs := by
          have hlt := (digitChar_of_isDigit hc).1
          rw [write, write, write, Nat.toDigits_append_toDigits (by decide) hn hlt]
      _ = write (Nat.ofDigitChars 10 (c :: cs) n) := by
          rw [ih (by omega) hcs, Nat.ofDigitChars_cons]

theorem writePadded_of_two_le {n : Nat} (h : 2 ≤ (write n).length) : writePadded n = write n := by
  have hn : ¬ n < 10 := by
    intro hlt
    have := (Nat.length_toDigits_le_iff (b := 10) (by decide) (by decide : 0 < 1)).2 hlt
    unfold write at h
    omega
  exact if_neg hn

/-- Two or more digits are those that their value is written with, and zeros in front of them. -/
theorem exists_zeros {cs : List Char} (h : ∀ c ∈ cs, c.isDigit = true) (hlength : 2 ≤ cs.length) :
    ∃ zeros, cs = List.replicate zeros '0' ++ writePadded (Nat.ofDigitChars 10 cs 0) := by
  induction cs with
  | nil => simp at hlength
  | cons c cs ih =>
    have hc := h c List.mem_cons_self
    have hcs : ∀ c ∈ cs, c.isDigit = true := fun c hc => h c (List.mem_cons_of_mem _ hc)
    rcases Nat.eq_zero_or_pos (c.toNat - '0'.toNat) with hzero | hpos
    · obtain rfl : c = '0' := by
        rw [← (digitChar_of_isDigit hc).2, hzero]
        rfl
      have hvalue : Nat.ofDigitChars 10 ('0' :: cs) 0 = Nat.ofDigitChars 10 cs 0 :=
        Nat.ofDigitChars_cons
      rw [hvalue]
      by_cases hshort : 2 ≤ cs.length
      · obtain ⟨zeros, hzeros⟩ := ih hcs hshort
        refine ⟨zeros + 1, ?_⟩
        rw [List.replicate_succ, List.cons_append, ← hzeros]
      · -- a zero before a single digit belongs to the two digits that are always written
        obtain ⟨d, rfl⟩ : ∃ d, cs = [d] := by
          apply List.length_eq_one_iff.1
          rw [List.length_cons] at hlength
          omega
        have hd := hcs d List.mem_cons_self
        refine ⟨0, ?_⟩
        have hlt := (digitChar_of_isDigit hd).1
        rw [Nat.ofDigitChars_cons, Nat.ofDigitChars_nil, Nat.mul_zero, Nat.zero_add, writePadded,
          if_pos hlt, write_digit hd]
        rfl
    · have hwrite : c :: cs = write (Nat.ofDigitChars 10 (c :: cs) 0) := by
        have happend := write_append hpos hcs
        rwa [write_digit hc, List.singleton_append, ← Nat.zero_add (c.toNat - '0'.toNat),
          ← Nat.mul_zero 10, ← Nat.ofDigitChars_cons] at happend
      refine ⟨0, ?_⟩
      rw [writePadded_of_two_le (hwrite ▸ hlength)]
      exact hwrite

theorem digits?_eq_some_iff {limit n : Nat} {cs : List Char} :
    digits? limit cs = some n ↔
      cs ≠ [] ∧ (∀ c ∈ cs, c.isDigit = true) ∧ Nat.ofDigitChars 10 cs 0 = n ∧ n ≤ limit := by
  unfold digits?
  split
  · rename_i hbad
    simp only [Bool.or_eq_true, List.isEmpty_iff, Bool.not_eq_true', List.all_eq_false] at hbad
    constructor
    · intro h
      contradiction
    · rintro ⟨hne, hall, -⟩
      obtain hnil | ⟨c, hc, hdigit⟩ := hbad
      · contradiction
      · exact absurd (hall c hc) hdigit
  · rename_i hgood
    simp only [Bool.or_eq_true, List.isEmpty_iff, Bool.not_eq_true', not_or,
      Bool.not_eq_false, List.all_eq_true] at hgood
    simp only [Option.filter_eq_some_iff, Option.some.injEq, decide_eq_true_eq]
    constructor
    · rintro ⟨hvalue, hlimit⟩
      exact ⟨hgood.1, hgood.2, hvalue, hlimit⟩
    · rintro ⟨-, -, hvalue, hlimit⟩
      exact ⟨hvalue, hlimit⟩

end Decimal

/-! ## Hosts -/

/-- A text that spells a host: its letter, the word `host`, and two or more digits of its number,
which is one of 64 bits. -/
structure HostId.SpelledBy (id : HostId) (token : List Char) : Prop where
  team : id.team.isAlpha = true
  index : id.index < UInt64.size
  digits : ∃ digits, token = id.team :: "host".toList ++ digits ∧ 2 ≤ digits.length ∧
    (∀ c ∈ digits, c.isDigit = true) ∧ Nat.ofDigitChars 10 digits 0 = id.index

namespace HostId

theorem parse?_eq_some_iff {token : List Char} {id : HostId} :
    parse? token = some id ↔ id.SpelledBy token := by
  have hsize : ∀ n, n ≤ Decimal.word64 ↔ n < UInt64.size := fun n => Nat.lt_succ_iff.symm
  constructor
  · intro h
    unfold parse? at h
    split at h
    · rename_i team digits
      split at h
      · rename_i hgood
        simp only [Bool.and_eq_true, decide_eq_true_eq] at hgood
        obtain ⟨n, hn, rfl⟩ := Option.map_eq_some_iff.1 h
        obtain ⟨-, hdigits, hvalue, hlimit⟩ := Decimal.digits?_eq_some_iff.1 hn
        exact ⟨hgood.1, (hsize n).1 hlimit, digits, rfl, hgood.2, hdigits, hvalue⟩
      · contradiction
    · contradiction
  · rintro ⟨hteam, hindex, digits, rfl, htwo, hdigits, hvalue⟩
    have hne : digits ≠ [] := by
      rintro rfl
      contradiction
    have hread := Decimal.digits?_eq_some_iff.2 ⟨hne, hdigits, hvalue, (hsize _).2 hindex⟩
    simp [parse?, hteam, htwo, hread]

/-- The text of a host with more zeros in front of its number. -/
def spelling (id : HostId) (zeros : Nat) : String :=
  .ofList (id.team :: "host".toList ++ (List.replicate zeros '0' ++ Decimal.writePadded id.index))

theorem SpelledBy.exists_zeros {id : HostId} {token : List Char} (h : id.SpelledBy token) :
    ∃ zeros, token = (id.spelling zeros).toList := by
  obtain ⟨digits, rfl, htwo, hdigits, hvalue⟩ := h.digits
  obtain ⟨zeros, hzeros⟩ := Decimal.exists_zeros hdigits htwo
  refine ⟨zeros, ?_⟩
  rw [hvalue] at hzeros
  rw [HostId.spelling, ← hzeros]
  exact String.toList_ofList.symm

theorem spelledBy_spelling {id : HostId} (h : id.Proper) (zeros : Nat) :
    id.SpelledBy (id.spelling zeros).toList := by
  refine ⟨h.team, Nat.lt_succ_of_le h.index,
    List.replicate zeros '0' ++ Decimal.writePadded id.index, String.toList_ofList, ?_, ?_, ?_⟩
  · have htwo := Decimal.two_le_length_writePadded id.index
    rw [List.length_append]
    omega
  · intro c hc
    rcases List.mem_append.1 hc with hc | hc
    · rw [List.eq_of_mem_replicate hc]
      decide
    · exact Decimal.isDigit_of_mem_writePadded hc
  · have hvalue := (Decimal.digits?_eq_some_iff.1 (Decimal.digits?_writePadded h.index)).2.2.1
    rw [Nat.ofDigitChars_append, Nat.ofDigitChars_replicate_zero]
    simpa using hvalue

theorem SpelledBy.proper {id : HostId} {token : List Char} (h : id.SpelledBy token) : id.Proper :=
  ⟨h.team, Nat.le_of_lt_succ h.index⟩

theorem SpelledBy.isSegment {id : HostId} {text : String} (h : id.SpelledBy text.toList) :
    IsSegment text := by
  obtain ⟨digits, htext, -, hdigits, -⟩ := h.digits
  constructor
  · rintro rfl
    contradiction
  · intro hdot
    simp only [htext, List.cons_append, List.mem_cons, List.mem_append] at hdot
    rcases hdot with hdot | hdot | hdot
    · have hteam := h.team
      rw [← hdot] at hteam
      exact absurd hteam (by decide)
    · exact absurd hdot (by decide)
    · exact absurd (hdigits _ hdot) (by decide)

end HostId

/-! ## Names -/

namespace SensorPath

/-- The segments that a place is read from. -/
def IsMadeOf : SensorPath → List (List Char) → Prop
  | array sensor, tokens => tokens = [sensor.toList]
  | host id device sensor, tokens =>
    ∃ token, tokens = [token, device.toList, sensor.toList] ∧ id.SpelledBy token
  | engine id unit device sensor, tokens =>
    ∃ token, tokens = [token, unit.toList, device.toList, sensor.toList] ∧ id.SpelledBy token

/-- One, three or four segments, none of them empty, the first of three or four for a host. -/
structure Readable (tokens : List (List Char)) : Prop where
  nonempty : ∀ token ∈ tokens, token ≠ []
  shape : tokens.length = 1 ∨ (tokens.length = 3 ∨ tokens.length = 4) ∧
    ∃ token ∈ tokens.head?, ∃ id : HostId, id.SpelledBy token

theorem parse_eq_ok_iff {name : String} {path : SensorPath} :
    parse name = .ok path ↔
      (∀ token ∈ segments name, token ≠ []) ∧ path.IsMadeOf (segments name) := by
  unfold parse
  generalize segments name = tokens
  dsimp only
  by_cases hempty : tokens.any List.isEmpty = true
  · rw [if_pos hempty]
    obtain ⟨token, htoken, hnil⟩ := List.any_eq_true.1 hempty
    constructor
    · intro h
      contradiction
    · intro h
      exact absurd (List.isEmpty_iff.1 hnil) (h.1 token htoken)
  · rw [if_neg hempty]
    have hnonempty : ∀ token ∈ tokens, token ≠ [] := by
      intro token htoken hnil
      exact hempty (List.any_eq_true.2 ⟨token, htoken, List.isEmpty_iff.2 hnil⟩)
    rw [and_iff_right hnonempty]
    clear hempty hnonempty
    match tokens with
    | [sensor] => cases path <;> simp [IsMadeOf, String.ofList_eq]
    | [token, device, sensor] =>
      cases hid : HostId.parse? token <;> cases path <;>
        simp [IsMadeOf, ← HostId.parse?_eq_some_iff, and_assoc, and_comm, and_left_comm, hid,
          String.ofList_eq]
    | [token, unit, device, sensor] =>
      cases hid : HostId.parse? token <;> cases path <;>
        simp [IsMadeOf, ← HostId.parse?_eq_some_iff, and_assoc, and_comm, and_left_comm, hid,
          String.ofList_eq]
    | [] | [_, _] | _ :: _ :: _ :: _ :: _ :: _ => cases path <;> simp [IsMadeOf]

theorem exists_isMadeOf_iff {tokens : List (List Char)} :
    (∃ path : SensorPath, path.IsMadeOf tokens) ↔
      tokens.length = 1 ∨ (tokens.length = 3 ∨ tokens.length = 4) ∧
        ∃ token ∈ tokens.head?, ∃ id : HostId, id.SpelledBy token := by
  constructor
  · rintro ⟨path, hmade⟩
    cases path with
    | array sensor =>
      obtain rfl := hmade
      exact .inl rfl
    | host id device sensor =>
      obtain ⟨token, rfl, hid⟩ := hmade
      exact .inr ⟨.inl rfl, token, rfl, id, hid⟩
    | engine id unit device sensor =>
      obtain ⟨token, rfl, hid⟩ := hmade
      exact .inr ⟨.inr rfl, token, rfl, id, hid⟩
  · rintro (hone | ⟨hlength, token, htoken, id, hid⟩)
    · obtain ⟨sensor, rfl⟩ := List.length_eq_one_iff.1 hone
      exact ⟨.array (.ofList sensor), by simp [IsMadeOf]⟩
    · obtain ⟨rest, rfl⟩ := List.head?_eq_some_iff.1 htoken
      rcases hlength with hthree | hfour
      · obtain ⟨device, sensor, rfl⟩ := List.length_eq_two.1 (Nat.succ.inj hthree)
        exact ⟨.host id (.ofList device) (.ofList sensor), token, by simp, hid⟩
      · obtain ⟨unit, device, sensor, rfl⟩ := List.length_eq_three.1 (Nat.succ.inj hfour)
        exact ⟨.engine id (.ofList unit) (.ofList device) (.ofList sensor), token, by simp, hid⟩

/-- The text of a place with more zeros in front of the number of its host. -/
def spelling : SensorPath → Nat → String
  | array sensor, _ => sensor
  | host id device sensor, zeros => id.spelling zeros ++ "." ++ device ++ "." ++ sensor
  | engine id unit device sensor, zeros =>
    id.spelling zeros ++ "." ++ unit ++ "." ++ device ++ "." ++ sensor

theorem spelling_zero (path : SensorPath) : path.spelling 0 = path.text := by
  cases path <;> rfl

/-- The parts of such a text between its dots. -/
def spelledParts : SensorPath → Nat → List String
  | array sensor, _ => [sensor]
  | host id device sensor, zeros => [id.spelling zeros, device, sensor]
  | engine id unit device sensor, zeros => [id.spelling zeros, unit, device, sensor]

theorem toList_spelling (path : SensorPath) (zeros : Nat) :
    (path.spelling zeros).toList =
      ['.'].intercalate ((path.spelledParts zeros).map String.toList) := by
  cases path <;> simp [spelling, spelledParts, List.intercalate, String.toList_append]

theorem IsMadeOf.exists_zeros {path : SensorPath} {tokens : List (List Char)}
    (h : path.IsMadeOf tokens) : ∃ zeros, tokens = (path.spelledParts zeros).map String.toList := by
  cases path with
  | array sensor => exact ⟨0, h⟩
  | host id device sensor =>
    obtain ⟨token, rfl, hid⟩ := h
    obtain ⟨zeros, rfl⟩ := hid.exists_zeros
    exact ⟨zeros, rfl⟩
  | engine id unit device sensor =>
    obtain ⟨token, rfl, hid⟩ := h
    obtain ⟨zeros, rfl⟩ := hid.exists_zeros
    exact ⟨zeros, rfl⟩

theorem isMadeOf_spelledParts {path : SensorPath} (h : path.Proper) (zeros : Nat) :
    path.IsMadeOf ((path.spelledParts zeros).map String.toList) := by
  cases path with
  | array sensor => exact rfl
  | host id device sensor => exact ⟨_, rfl, HostId.spelledBy_spelling h.1 zeros⟩
  | engine id unit device sensor => exact ⟨_, rfl, HostId.spelledBy_spelling h.1 zeros⟩

theorem Proper.isSegment {path : SensorPath} (h : path.Proper) (zeros : Nat) :
    ∀ part ∈ path.spelledParts zeros, IsSegment part := by
  have hhost : ∀ id : HostId, id.Proper → IsSegment (id.spelling zeros) :=
    fun id hid => (HostId.spelledBy_spelling hid zeros).isSegment
  cases path with
  | array sensor =>
    have hsensor : IsSegment sensor := h
    simpa [spelledParts] using hsensor
  | host id device sensor =>
    obtain ⟨hid, hdevice, hsensor⟩ := h
    simpa [spelledParts] using ⟨hhost id hid, hdevice, hsensor⟩
  | engine id unit device sensor =>
    obtain ⟨hid, hunit, hdevice, hsensor⟩ := h
    simpa [spelledParts] using ⟨hhost id hid, hunit, hdevice, hsensor⟩

theorem segments_spelling {path : SensorPath} (h : path.Proper) (zeros : Nat) :
    segments (path.spelling zeros) = (path.spelledParts zeros).map String.toList := by
  have hne : path.spelledParts zeros ≠ [] := by cases path <;> simp [spelledParts]
  unfold segments
  rw [toList_spelling]
  exact Text.splitOn_intercalate hne fun part hpart => (h.isSegment zeros part hpart).undotted

theorem IsMadeOf.proper {path : SensorPath} {tokens : List (List Char)} (h : path.IsMadeOf tokens)
    (htokens : ∀ token ∈ tokens, IsSegment (.ofList token)) : path.Proper := by
  cases path with
  | array sensor =>
    obtain rfl := h
    simpa [Proper] using htokens
  | host id device sensor =>
    obtain ⟨token, rfl, hid⟩ := h
    simp only [List.forall_mem_cons, String.ofList_toList] at htokens
    exact ⟨hid.proper, htokens.2.1, htokens.2.2.1⟩
  | engine id unit device sensor =>
    obtain ⟨token, rfl, hid⟩ := h
    simp only [List.forall_mem_cons, String.ofList_toList] at htokens
    exact ⟨hid.proper, htokens.2.1, htokens.2.2.1, htokens.2.2.2.1⟩

/-- The names of a place are its texts, with any number of zeros. -/
theorem parse_eq_ok_iff_spelling {name : String} {path : SensorPath} :
    parse name = .ok path ↔ path.Proper ∧ ∃ zeros, name = path.spelling zeros := by
  rw [parse_eq_ok_iff]
  constructor
  · rintro ⟨hnonempty, hmade⟩
    constructor
    · apply hmade.proper
      intro token htoken
      exact isSegment_of_mem_splitOn htoken (hnonempty token htoken)
    · obtain ⟨zeros, hparts⟩ := hmade.exists_zeros
      refine ⟨zeros, String.toList_inj.1 ?_⟩
      rw [toList_spelling, ← hparts]
      exact (List.intercalate_splitOn '.').symm
  · rintro ⟨hproper, zeros, rfl⟩
    rw [segments_spelling hproper]
    refine ⟨?_, isMadeOf_spelledParts hproper zeros⟩
    intro token htoken hnil
    obtain ⟨text, htext, rfl⟩ := List.mem_map.1 htoken
    exact (hproper.isSegment zeros text htext).nonempty (String.toList_eq_nil_iff.1 hnil)

/-- A place is read back from its name. -/
theorem parse_text {path : SensorPath} (h : path.Proper) : parse path.text = .ok path :=
  parse_eq_ok_iff_spelling.2 ⟨h, 0, path.spelling_zero.symm⟩

theorem eq_malformedName_of_parse {name : String} {e : TreeError} (h : parse name = .error e) :
    e = .malformedName name := by
  unfold parse at h
  dsimp only at h
  split at h
  · contradiction
  · exact (Except.error.inj h).symm

/-- A name is read if it has one, three or four segments, none of them empty, and the first of three
or four is a letter, the word `host`, and two or more digits of a number of 64 bits; otherwise it is
malformed. The segments are the parts of the place that is read. A place the parts of which are
segments is read back from its text, and a name that is read is the text of what was read, with any
number of zeros in front of the number of the host. -/
theorem name_grammar :
    (∀ name, (∃ path, parse name = .ok path) ↔ Readable (segments name)) ∧
    (∀ name, ¬ Readable (segments name) → parse name = .error (.malformedName name)) ∧
    (∀ name path, parse name = .ok path → path.IsMadeOf (segments name)) ∧
    (∀ path : SensorPath, path.Proper → parse path.text = .ok path) ∧
    ∀ name path, parse name = .ok path → path.Proper ∧ ∃ zeros, name = path.spelling zeros := by
  have hreads : ∀ name, (∃ path, parse name = .ok path) ↔ Readable (segments name) := by
    intro name
    simp only [parse_eq_ok_iff, exists_and_left, exists_isMadeOf_iff]
    exact ⟨fun h => ⟨h.1, h.2⟩, fun h => ⟨h.nonempty, h.shape⟩⟩
  refine ⟨hreads, ?_, ?_, fun path => parse_text, ?_⟩
  · intro name hnot
    cases hparse : parse name with
    | ok path => exact absurd ((hreads name).1 ⟨path, hparse⟩) hnot
    | error e => rw [eq_malformedName_of_parse hparse]
  · intro name path hparse
    exact (parse_eq_ok_iff.1 hparse).2
  · intro name path hparse
    exact parse_eq_ok_iff_spelling.1 hparse

/-- A number with zeros that its text does not have, and a number of too many bits. -/
theorem name_grammar_zeros :
    let path : SensorPath := .engine ⟨'x', 3⟩ "xeng2" "vacc" "device-status"
    parse "xhost0003.xeng2.vacc.device-status" = .ok path ∧
      (∃ zeros, "xhost0003.xeng2.vacc.device-status" = path.spelling zeros) ∧
      parse path.text = .ok path ∧ path.text = "xhost03.xeng2.vacc.device-status" ∧
      parse "xhost18446744073709551616.vacc.device-status" =
        .error (.malformedName "xhost18446744073709551616.vacc.device-status") := by
  intro path
  have hread : parse "xhost0003.xeng2.vacc.device-status" = .ok path := by decide
  have hproper : path.Proper := ⟨⟨by decide, by decide⟩, by decide, by decide, by decide⟩
  have hwide : ¬ Readable (segments "xhost18446744073709551616.vacc.device-status") := by
    rw [← name_grammar.1]
    rintro ⟨path, hpath⟩
    have herror : (parse "xhost18446744073709551616.vacc.device-status").isOk = false := by decide
    rw [hpath] at herror
    contradiction
  exact ⟨hread, (name_grammar.2.2.2.2 _ path hread).2, name_grammar.2.2.2.1 path hproper, by decide,
    name_grammar.2.1 _ hwide⟩

end SensorPath

end ArrayWatch
