import ArrayWatch.Text.Base64

/-!
# Base64 there and back

A text is read as bytes where it is the one that is written for them, so that bytes have one coding
and no more. The letters of a group are the digits of a number in base 64 and its bytes are the
digits in base 256; a group that is not full is filled up with zeros, which is what is asked of the
bits that the padding leaves over.

* `value?_eq_some_iff`: the letters, and what they stand for.
* `decode?_three`, `decode?_two`, `decode?_one`: how a group is read.
* `decode?_eq_some_iff`: reading is the inverse of writing.
* `mem_encode`: the characters of a coding.
-/

namespace ArrayWatch.Base64

/-! ## Letters -/

theorem value?_letter {n : Nat} (h : n < 64) : value? (letter n) = some n := by
  revert n
  decide

theorem letter_of_value? {c : Char} {n : Nat} (h : value? c = some n) : n < 64 ∧ c = letter n := by
  have hc : Char.ofNat c.toNat = c := Char.ofNat_toNat c
  unfold value? at h
  dsimp only at h
  unfold letter
  split at h
  · rename_i hrange
    obtain rfl : c.toNat - 65 = n := Option.some.inj h
    have hcode : 65 + (c.toNat - 65) = c.toNat := by omega
    rw [if_pos (by omega), hcode, hc]
    exact ⟨by omega, rfl⟩
  split at h
  · rename_i hrange
    obtain rfl : c.toNat - 97 + 26 = n := Option.some.inj h
    have hcode : 97 + (c.toNat - 97 + 26 - 26) = c.toNat := by omega
    rw [if_neg (by omega), if_pos (by omega), hcode, hc]
    exact ⟨by omega, rfl⟩
  split at h
  · rename_i hrange
    obtain rfl : c.toNat - 48 + 52 = n := Option.some.inj h
    have hcode : 48 + (c.toNat - 48 + 52 - 52) = c.toNat := by omega
    rw [if_neg (by omega), if_neg (by omega), if_pos (by omega), hcode, hc]
    exact ⟨by omega, rfl⟩
  split at h
  · rename_i hplus
    obtain rfl : 62 = n := Option.some.inj h
    exact ⟨by decide, hplus⟩
  split at h
  · rename_i hslash
    obtain rfl : 63 = n := Option.some.inj h
    exact ⟨by decide, hslash⟩
  · contradiction

theorem value?_eq_some_iff {c : Char} {n : Nat} : value? c = some n ↔ n < 64 ∧ c = letter n := by
  constructor
  · exact letter_of_value?
  · rintro ⟨hn, rfl⟩
    exact value?_letter hn

/-- No letter can be taken for padding. -/
theorem letter_ne_padding {n : Nat} (h : n < 64) : letter n ≠ '=' := by
  intro hpadding
  have hvalue := value?_letter h
  have hnone : value? '=' = none := by decide
  rw [hpadding, hnone] at hvalue
  contradiction

/-! ## Groups -/

section Groups

variable {i j k l : Nat}

theorem decode?_three (hi : i < 64) (hj : j < 64) (hk : k < 64) (hl : l < 64) (rest : List Char) :
    decode? (letter i :: letter j :: letter k :: letter l :: rest) = (decode? rest).map fun tail =>
      let n := ((i * 64 + j) * 64 + k) * 64 + l
      UInt8.ofNat (n / 65536) :: UInt8.ofNat (n / 256 % 256) :: UInt8.ofNat (n % 256) :: tail := by
  have hpadding := letter_ne_padding hl
  rw [decode?, value?_letter hi, value?_letter hj, value?_letter hk, value?_letter hl]
  · cases decode? rest <;> rfl
  · exact fun _ h => absurd h hpadding
  · exact fun h => absurd h hpadding

theorem decode?_two (hi : i < 64) (hj : j < 64) (hk : k < 64) :
    decode? [letter i, letter j, letter k, '='] =
      let n := (i * 64 + j) * 64 + k
      if n % 4 = 0 then some [UInt8.ofNat (n / 1024), UInt8.ofNat (n / 4 % 256)] else none := by
  rw [decode?, value?_letter hi, value?_letter hj, value?_letter hk]
  · rfl
  · exact letter_ne_padding hk

theorem decode?_one (hi : i < 64) (hj : j < 64) :
    decode? [letter i, letter j, '=', '='] =
      let n := i * 64 + j
      if n % 16 = 0 then some [UInt8.ofNat (n / 16)] else none := by
  rw [decode?, value?_letter hi, value?_letter hj]
  rfl

end Groups

/-! ## Codings -/

theorem decode?_encode (bytes : List UInt8) : decode? (encode bytes) = some bytes := by
  induction bytes using encode.induct with
  | case1 a b c rest ih =>
    have ha : a.toNat < 256 := a.toNat_lt
    have hb : b.toNat < 256 := b.toNat_lt
    have hc : c.toNat < 256 := c.toNat_lt
    rw [encode]
    generalize hn : (a.toNat * 256 + b.toNat) * 256 + c.toNat = n
    have hbits : ((n / 262144 * 64 + n / 4096 % 64) * 64 + n / 64 % 64) * 64 + n % 64 = n := by
      omega
    have ha' : n / 65536 = a.toNat := by omega
    have hb' : n / 256 % 256 = b.toNat := by omega
    have hc' : n % 256 = c.toNat := by omega
    rw [decode?_three (by omega) (by omega) (by omega) (by omega), ih]
    dsimp only
    rw [hbits, ha', hb', hc']
    simp
  | case2 a b =>
    have ha : a.toNat < 256 := a.toNat_lt
    have hb : b.toNat < 256 := b.toNat_lt
    rw [encode]
    generalize hn : (a.toNat * 256 + b.toNat) * 4 = n
    have hbits : (n / 4096 * 64 + n / 64 % 64) * 64 + n % 64 = n := by omega
    have ha' : n / 1024 = a.toNat := by omega
    have hb' : n / 4 % 256 = b.toNat := by omega
    have hleft : n % 4 = 0 := by omega
    rw [decode?_two (by omega) (by omega) (by omega)]
    dsimp only
    rw [hbits, ha', hb', if_pos hleft]
    simp
  | case3 a =>
    have ha : a.toNat < 256 := a.toNat_lt
    rw [encode]
    generalize hn : a.toNat * 16 = n
    have hbits : n / 64 * 64 + n % 64 = n := by omega
    have ha' : n / 16 = a.toNat := by omega
    have hleft : n % 16 = 0 := by omega
    rw [decode?_one (by omega) (by omega)]
    dsimp only
    rw [hbits, ha', if_pos hleft]
    simp
  | case4 => rfl

theorem eq_encode_of_decode? {cs : List Char} {bytes : List UInt8} (h : decode? cs = some bytes) :
    cs = encode bytes := by
  have hbyte : ∀ n, n < 256 → (UInt8.ofNat n).toNat = n := fun n hn => UInt8.toNat_ofNat_of_lt' hn
  induction cs using decode?.induct generalizing bytes with
  | case1 =>
    obtain rfl := Option.some.inj h
    rfl
  | case2 a b =>
    have hletters := h
    rw [decode?] at hletters
    simp only [bind, Option.bind_eq_some_iff, value?_eq_some_iff] at hletters
    obtain ⟨i, ⟨hi, rfl⟩, j, ⟨hj, rfl⟩, -⟩ := hletters
    rw [decode?_one hi hj] at h
    generalize hn : i * 64 + j = n at h
    obtain ⟨hleft, hbytes⟩ := Option.ite_none_right_eq_some.1 h
    obtain rfl := Option.some.inj hbytes
    have hi' : n / 16 * 16 / 64 = i := by omega
    have hj' : n / 16 * 16 % 64 = j := by omega
    rw [encode, hbyte _ (by omega), hi', hj']
  | case3 a b c hc =>
    have hletters := h
    rw [decode?] at hletters
    · simp only [bind, Option.bind_eq_some_iff, value?_eq_some_iff] at hletters
      obtain ⟨i, ⟨hi, rfl⟩, j, ⟨hj, rfl⟩, k, ⟨hk, rfl⟩, -⟩ := hletters
      rw [decode?_two hi hj hk] at h
      generalize hn : (i * 64 + j) * 64 + k = n at h
      obtain ⟨hleft, hbytes⟩ := Option.ite_none_right_eq_some.1 h
      obtain rfl := Option.some.inj hbytes
      have hn' : (n / 1024 * 256 + n / 4 % 256) * 4 = n := by omega
      have hi' : n / 4096 = i := by omega
      have hj' : n / 64 % 64 = j := by omega
      have hk' : n % 64 = k := by omega
      rw [encode, hbyte _ (by omega), hbyte _ (by omega), hn', hi', hj', hk']
    · exact hc
  | case4 a b c d rest hone htwo ih =>
    have hletters := h
    rw [decode?] at hletters
    · simp only [bind, Option.bind_eq_some_iff, value?_eq_some_iff] at hletters
      obtain ⟨i, ⟨hi, rfl⟩, j, ⟨hj, rfl⟩, k, ⟨hk, rfl⟩, l, ⟨hl, rfl⟩, tail, htail, -⟩ := hletters
      rw [decode?_three hi hj hk hl, htail] at h
      generalize hn : ((i * 64 + j) * 64 + k) * 64 + l = n at h
      obtain rfl := Option.some.inj h
      have hn' : (n / 65536 * 256 + n / 256 % 256) * 256 + n % 256 = n := by omega
      have hi' : n / 262144 = i := by omega
      have hj' : n / 4096 % 64 = j := by omega
      have hk' : n / 64 % 64 = k := by omega
      have hl' : n % 64 = l := by omega
      rw [encode, ih htail, hbyte _ (by omega), hbyte _ (by omega), hbyte _ (by omega), hn', hi',
        hj', hk', hl']
    · exact hone
    · exact htwo
  | case5 cs hnil hone htwo hthree =>
    rw [decode?] at h
    · exact absurd h nofun
    · exact hnil
    · exact hone
    · exact htwo
    · exact hthree

/-- Bytes have one coding, and only codings are read. -/
theorem decode?_eq_some_iff {cs : List Char} {bytes : List UInt8} :
    decode? cs = some bytes ↔ cs = encode bytes := by
  constructor
  · exact eq_encode_of_decode?
  · rintro rfl
    exact decode?_encode bytes

theorem encode_inj {bytes others : List UInt8} : encode bytes = encode others ↔ bytes = others := by
  rw [← decode?_eq_some_iff, decode?_encode, Option.some.injEq]

/-- A coding is made of letters and padding. -/
theorem mem_encode {bytes : List UInt8} {c : Char} (h : c ∈ encode bytes) :
    c = '=' ∨ ∃ n < 64, c = letter n := by
  induction bytes using encode.induct with
  | case1 a b d rest ih =>
    have ha : a.toNat < 256 := a.toNat_lt
    have hb : b.toNat < 256 := b.toNat_lt
    have hd : d.toNat < 256 := d.toNat_lt
    rw [encode] at h
    simp only [List.mem_cons] at h
    rcases h with h | h | h | h | h
    rotate_right
    · exact ih h
    all_goals exact .inr ⟨_, by omega, h⟩
  | case2 a b =>
    have ha : a.toNat < 256 := a.toNat_lt
    have hb : b.toNat < 256 := b.toNat_lt
    rw [encode] at h
    simp only [List.mem_cons, List.not_mem_nil, or_false] at h
    rcases h with h | h | h | h
    rotate_right
    · exact .inl h
    all_goals exact .inr ⟨_, by omega, h⟩
  | case3 a =>
    have ha : a.toNat < 256 := a.toNat_lt
    rw [encode] at h
    simp only [List.mem_cons, List.not_mem_nil, or_false, or_self] at h
    rcases h with h | h | h
    rotate_right
    · exact .inl h
    all_goals exact .inr ⟨_, by omega, h⟩
  | case4 => contradiction

end ArrayWatch.Base64
