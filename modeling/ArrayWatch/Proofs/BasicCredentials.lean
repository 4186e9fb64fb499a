import ArrayWatch.Dashboard.Credentials
import ArrayWatch.Proofs.Base64Coding
import ArrayWatch.Proofs.Utf8Coding

/-!
# The one header that is accepted

User and password have one coding in UTF-8, and its bytes have one coding in base64. So there is one
text that gives them, and all that a header is free to choose is how many blanks stand around it.

* `Credentials.Carries` lays a header out: the scheme, blanks, the coding of some bytes, blanks.
* `Credentials.decode?_eq_some_iff`: what is read are the headers that are laid out so, with the
  bytes of a text.
* `DashboardConfig.accepts_exactly`: the dashboard accepts those with the bytes of the user and the
  password that it is configured with.
-/

namespace ArrayWatch

namespace Credentials

/-! ## Layout -/

/-- Blanks and tabs: no other blank character can stand in a header. -/
def Blanks (cs : List Char) : Prop :=
  ∀ c ∈ cs, c = ' ' ∨ c = '\t'

/-- A header that gives some bytes: the scheme, and their coding with blanks around it. -/
def Carries (header : List Char) (bytes : List UInt8) : Prop :=
  ∃ before after, Blanks before ∧ Blanks after ∧
    header = scheme ++ (before ++ (Base64.encode bytes ++ after))

theorem blanks_nil : Blanks [] := by
  simp [Blanks]

theorem carries_encode (bytes : List UInt8) : Carries (scheme ++ Base64.encode bytes) bytes :=
  ⟨[], [], blanks_nil, blanks_nil, by simp⟩

/-! ## Characters -/

theorem blank_of_isHeaderChar {c : Char} (hheader : isHeaderChar c = true)
    (hblank : Text.isBlank c = true) : c = ' ' ∨ c = '\t' := by
  by_cases htab : c = '\t'
  · exact .inr htab
  · left
    have hspace : c.toNat = ' '.toNat := by
      simp only [isHeaderChar, Bool.or_eq_true, Bool.and_eq_true, decide_eq_true_eq, beq_iff_eq,
        htab, or_false] at hheader
      simp only [Text.isBlank, Bool.or_eq_true, Bool.and_eq_true, decide_eq_true_eq, beq_iff_eq]
        at hblank
      have hvalue : ' '.toNat = 0x20 := by decide
      omega
    exact Char.toNat_inj.1 hspace

theorem isHeaderChar_of_blanks {cs : List Char} (h : Blanks cs) :
    ∀ c ∈ cs, isHeaderChar c = true := by
  intro c hc
  rcases h c hc with rfl | rfl <;> decide

theorem isBlank_of_blanks {cs : List Char} (h : Blanks cs) : ∀ c ∈ cs, Text.isBlank c = true := by
  intro c hc
  rcases h c hc with rfl | rfl <;> decide

theorem letter_plain : ∀ n < 64,
    isHeaderChar (Base64.letter n) = true ∧ Text.isBlank (Base64.letter n) = false := by
  decide

theorem encode_plain {bytes : List UInt8} {c : Char} (h : c ∈ Base64.encode bytes) :
    isHeaderChar c = true ∧ Text.isBlank c = false := by
  obtain rfl | ⟨n, hn, rfl⟩ := Base64.mem_encode h
  · decide
  · exact letter_plain n hn

theorem trimmed_encode (bytes : List UInt8) : Text.Trimmed Text.isBlank (Base64.encode bytes) where
  first _ hc := (encode_plain (List.mem_of_mem_head? hc)).2
  last _ hc := (encode_plain (List.mem_of_mem_getLast? hc)).2

/-! ## Reading -/

theorem afterScheme?_eq_some_iff {header text : List Char} :
    afterScheme? header = some text ↔ header = scheme ++ text := by
  unfold afterScheme?
  rw [Option.ite_none_right_eq_some, List.isPrefixOf_iff_prefix]
  constructor
  · rintro ⟨⟨rest, rfl⟩, htext⟩
    rw [List.drop_left, Option.some.injEq] at htext
    rw [htext]
  · rintro rfl
    exact ⟨List.prefix_append scheme text, by rw [List.drop_left]⟩

/-- What a header has to be for its credentials to be read. -/
theorem decode?_iff_trim {header credentials : List Char} :
    decode? header = some credentials ↔
      (∀ c ∈ header, isHeaderChar c = true) ∧
        ∃ text, header = scheme ++ text ∧
          Text.trim text = Base64.encode (Utf8.encode credentials) := by
  rw [← List.all_eq_true]
  unfold decode?
  by_cases hall : header.all isHeaderChar = true
  · rw [if_pos hall]
    simp only [bind, Option.bind_eq_some_iff, afterScheme?_eq_some_iff, Base64.decode?_eq_some_iff,
      Utf8.decode?_eq_some_iff]
    constructor
    · rintro ⟨text, hheader, bytes, htrim, rfl⟩
      exact ⟨hall, text, hheader, htrim⟩
    · rintro ⟨-, text, hheader, htrim⟩
      exact ⟨text, hheader, _, htrim, rfl⟩
  · rw [if_neg hall]
    constructor
    · intro h
      contradiction
    · rintro ⟨hall', -⟩
      exact absurd hall' hall

theorem carries_of_trim {text : List Char} {bytes : List UInt8}
    (hall : ∀ c ∈ scheme ++ text, isHeaderChar c = true)
    (htrim : Text.trim text = Base64.encode bytes) : Carries (scheme ++ text) bytes := by
  obtain ⟨before, after, htext, hbefore, hafter⟩ := Text.exists_trimWhile Text.isBlank text
  have hkept : Text.trimWhile Text.isBlank text = Base64.encode bytes := htrim
  rw [hkept] at htext
  have hchars : ∀ c ∈ before ++ (Base64.encode bytes ++ after), isHeaderChar c = true := by
    rw [← htext]
    exact fun c hc => hall c (List.mem_append_right _ hc)
  refine ⟨before, after, ?_, ?_, by rw [← htext]⟩
  · intro c hc
    exact blank_of_isHeaderChar (hchars c (by simp [hc])) (hbefore c hc)
  · intro c hc
    exact blank_of_isHeaderChar (hchars c (by simp [hc])) (hafter c hc)

theorem isHeaderChar_of_carries {header : List Char} {bytes : List UInt8}
    (h : Carries header bytes) : ∀ c ∈ header, isHeaderChar c = true := by
  obtain ⟨before, after, hbefore, hafter, rfl⟩ := h
  intro c hc
  simp only [List.mem_append] at hc
  rcases hc with hc | hc | hc | hc
  · have hscheme : scheme.all isHeaderChar = true := by decide
    exact List.all_eq_true.1 hscheme c hc
  · exact isHeaderChar_of_blanks hbefore c hc
  · exact (encode_plain hc).1
  · exact isHeaderChar_of_blanks hafter c hc

theorem trim_of_blanks {before after : List Char} (hbefore : Blanks before) (hafter : Blanks after)
    (bytes : List UInt8) :
    Text.trim (before ++ (Base64.encode bytes ++ after)) = Base64.encode bytes :=
  Text.trimWhile_append (isBlank_of_blanks hbefore) (isBlank_of_blanks hafter)
    (trimmed_encode bytes)

/-- The headers that are read, and what is read in them. -/
theorem decode?_eq_some_iff {header credentials : List Char} :
    decode? header = some credentials ↔ Carries header (Utf8.encode credentials) := by
  rw [decode?_iff_trim]
  constructor
  · rintro ⟨hall, text, rfl, htrim⟩
    exact carries_of_trim hall htrim
  · intro hcarries
    refine ⟨isHeaderChar_of_carries hcarries, ?_⟩
    obtain ⟨before, after, hbefore, hafter, rfl⟩ := hcarries
    exact ⟨_, rfl, trim_of_blanks hbefore hafter _⟩

/-- A header gives no two sequences of bytes. -/
theorem Carries.unique {header : List Char} {bytes others : List UInt8} (h : Carries header bytes)
    (hothers : Carries header others) : bytes = others := by
  obtain ⟨before, after, hbefore, hafter, rfl⟩ := h
  obtain ⟨before', after', hbefore', hafter', heq⟩ := hothers
  have htext := congrArg Text.trim (List.append_cancel_left heq)
  rw [trim_of_blanks hbefore hafter, trim_of_blanks hbefore' hafter'] at htext
  exact Base64.encode_inj.1 htext

end Credentials

namespace DashboardConfig

open Credentials

/-! ## Who is let in -/

theorem accepts_iff_carries (c : DashboardConfig) (text : String) :
    c.accepts (some text) = true ↔ Carries text.toList (Utf8.encode c.credentials) := by
  rw [accepts, Option.bind_some, beq_iff_eq, decode?_eq_some_iff]

/-- Without blanks in what follows the scheme, it has to be the coding itself. -/
theorem accepts_iff_eq_encode (c : DashboardConfig) {payload : List Char}
    (h : ∀ x ∈ payload, Text.isBlank x = false) :
    c.accepts (some (String.ofList (scheme ++ payload))) = true ↔
      payload = Base64.encode (Utf8.encode c.credentials) := by
  rw [accepts_iff_carries, String.toList_ofList]
  constructor
  · rintro ⟨before, after, hbefore, hafter, heq⟩
    have hpayload := List.append_cancel_left heq
    have htrim : Text.trim payload = payload := by
      apply Text.trimWhile_eq_self
      · exact fun x hx => h x (List.mem_of_mem_head? hx)
      · exact fun x hx => h x (List.mem_of_mem_getLast? hx)
    rw [← htrim, hpayload, trim_of_blanks hbefore hafter]
  · rintro rfl
    exact carries_encode _

/-- The dashboard accepts a header exactly where it consists of the scheme and the coding of the
configured user and password, with nothing but blanks around the coding. No header is not accepted,
nor is a header with the coding of any other bytes; and what is written without blanks after the
scheme is accepted in one spelling. -/
theorem accepts_exactly (c : DashboardConfig) :
    c.accepts none = false ∧
    (∀ text : String, c.accepts (some text) = true ↔
      Carries text.toList (Utf8.encode (c.username ++ ":" ++ c.password).toList)) ∧
    (∀ (text : String) (bytes : List UInt8), Carries text.toList bytes →
      (c.accepts (some text) = true ↔
        bytes = Utf8.encode (c.username ++ ":" ++ c.password).toList)) ∧
    ∀ payload : List Char, (∀ x ∈ payload, Text.isBlank x = false) →
      (c.accepts (some (String.ofList (scheme ++ payload))) = true ↔
        payload = Base64.encode (Utf8.encode (c.username ++ ":" ++ c.password).toList)) := by
  have hcredentials : (c.username ++ ":" ++ c.password).toList = c.credentials := by
    simp [credentials]
  rw [hcredentials]
  refine ⟨rfl, c.accepts_iff_carries, ?_, fun _ => c.accepts_iff_eq_encode⟩
  intro text bytes hcarries
  rw [accepts_iff_carries]
  constructor
  · exact hcarries.unique
  · rintro rfl
    exact hcarries

/-- The coding may stand between blanks. It is not accepted without its padding, with a bit left
over, or made of the bytes of another character set. -/
theorem accepts_exactly_umlaut :
    let c := { default with username := "ops", password := "gehör" }
    c.accepts (some "Basic \t b3BzOmdlaMO2cg== ") = true ∧
      c.accepts (some "Basic b3BzOmdlaMO2cg") = false ∧
      c.accepts (some "Basic b3BzOmdlaMO2ch==") = false ∧
      c.accepts (some "Basic b3BzOmdlaPZy") = false := by
  intro c
  obtain ⟨-, hlayout, hbytes, hspelling⟩ := accepts_exactly c
  have hcredentials : Utf8.encode (c.username ++ ":" ++ c.password).toList =
      [111, 112, 115, 58, 103, 101, 104, 195, 182, 114] := by
    decide +kernel
  rw [hcredentials] at hlayout hbytes hspelling
  have hrefused : ∀ payload : List Char, payload.any Text.isBlank = false →
      payload ≠ Base64.encode [111, 112, 115, 58, 103, 101, 104, 195, 182, 114] →
      c.accepts (some (String.ofList (scheme ++ payload))) = false := by
    intro payload hany hne
    have hblank : ∀ x ∈ payload, Text.isBlank x = false :=
      fun x hx => Bool.eq_false_iff.2 (List.any_eq_false.1 hany x hx)
    rw [Bool.eq_false_iff]
    exact fun haccepts => hne ((hspelling payload hblank).1 haccepts)
  refine ⟨?_, ?_, ?_, ?_⟩
  · refine (hlayout _).2 ⟨"\t ".toList, " ".toList, ?_, ?_, by decide +kernel⟩
    · simp [Blanks]
    · simp [Blanks]
  · exact hrefused "b3BzOmdlaMO2cg".toList (by decide +kernel) (by decide +kernel)
  · exact hrefused "b3BzOmdlaMO2ch==".toList (by decide +kernel) (by decide +kernel)
  · have hlatin : Carries "Basic b3BzOmdlaPZy".toList
        [111, 112, 115, 58, 103, 101, 104, 246, 114] :=
      ⟨[], [], blanks_nil, blanks_nil, by decide +kernel⟩
    rw [Bool.eq_false_iff, ne_eq, hbytes _ _ hlatin]
    decide

end DashboardConfig

end ArrayWatch
