import ArrayWatch.Text.Utf8

/-!
# UTF-8 there and back

The bytes of a text are read as the text again. A line feed among the bytes is a line feed among the
characters and the other way round, also where the bytes are not well formed.

* `next_encodeChar`: the bytes of one character are read as that character.
* `decode?_encode`, `decodeLossy_encode`: the bytes of a text are read as the text.
* `bytes_of_next`, `decode?_eq_some_iff`: no other bytes are.
* `lineFeed_mem_encode`, `lineFeed_mem_of_mem_decodeLossy`: where line feeds come from.
* `encode_lt_encode`: texts are in the order of their bytes.
-/

namespace ArrayWatch.Utf8

/-! ## One character -/

theorem next_one {a : UInt8} (ha : a.toNat < 0x80) (rest : List UInt8) :
    next a rest = (some (Char.ofNat a.toNat), rest) := by
  simp [next, ha]

theorem next_two {a b : UInt8} (ha : 0xC2 ≤ a.toNat) (ha' : a.toNat ≤ 0xDF)
    (hb : isTail b = true) (rest : List UInt8) :
    next a (b :: rest) = (some (Char.ofNat ((a.toNat - 0xC0) * 64 + low b)), rest) := by
  have h1 : ¬ a.toNat < 0x80 := by omega
  simp [next, h1, ha, ha', hb]

theorem next_three {a b c : UInt8} (ha : 0xE0 ≤ a.toNat) (ha' : a.toNat ≤ 0xEF)
    (hb : isSecond a b = true) (hc : isTail c = true) (rest : List UInt8) :
    next a (b :: c :: rest) =
      (some (Char.ofNat (((a.toNat - 0xE0) * 64 + low b) * 64 + low c)), rest) := by
  have h1 : ¬ a.toNat < 0x80 := by omega
  have h2 : ¬ (0xC2 ≤ a.toNat ∧ a.toNat ≤ 0xDF) := by omega
  simp [next, h1, h2, ha, ha', hb, hc]

theorem next_four {a b c d : UInt8} (ha : 0xF0 ≤ a.toNat) (ha' : a.toNat ≤ 0xF4)
    (hb : isSecond a b = true) (hc : isTail c = true) (hd : isTail d = true)
    (rest : List UInt8) :
    next a (b :: c :: d :: rest) =
      (some (Char.ofNat ((((a.toNat - 0xF0) * 64 + low b) * 64 + low c) * 64 + low d)), rest) := by
  have h1 : ¬ a.toNat < 0x80 := by omega
  have h2 : ¬ (0xC2 ≤ a.toNat ∧ a.toNat ≤ 0xDF) := by omega
  have h3 : ¬ (0xE0 ≤ a.toNat ∧ a.toNat ≤ 0xEF) := by omega
  simp [next, h1, h2, h3, ha, ha', hb, hc, hd]

/-- The least second byte keeps a character from being written with too many bytes, the greatest
one keeps surrogates and numbers above the last character out. -/
theorem isSecond_iff (a b : UInt8) : isSecond a b = true ↔
    isTail b = true ∧ (a.toNat = 0xE0 → 0xA0 ≤ b.toNat) ∧ (a.toNat = 0xED → b.toNat ≤ 0x9F) ∧
      (a.toNat = 0xF0 → 0x90 ≤ b.toNat) ∧ (a.toNat = 0xF4 → b.toNat ≤ 0x8F) := by
  unfold isSecond secondRange isTail
  repeat' split
  all_goals
    simp only [Bool.and_eq_true, decide_eq_true_eq]
    omega

theorem toNat_ofNat {n : Nat} (h : n < 0x100) : (UInt8.ofNat n).toNat = n :=
  UInt8.toNat_ofNat_of_lt' h

theorem isTail_ofNat {n : Nat} (h : 0x80 ≤ n) (h' : n ≤ 0xBF) :
    isTail (UInt8.ofNat n) = true := by
  have hn : (UInt8.ofNat n).toNat = n := toNat_ofNat (by omega)
  simp only [isTail, hn, Bool.and_eq_true, decide_eq_true_eq]
  omega

theorem low_ofNat {n : Nat} (h : n < 0x100) : low (UInt8.ofNat n) = n - 0x80 := by
  unfold low
  rw [toNat_ofNat h]

/-- Every character but the surrogates has its place below 0x110000. -/
theorem toNat_char (c : Char) :
    c.val.toNat < 0xD800 ∨ (0xDFFF < c.val.toNat ∧ c.val.toNat < 0x110000) := by
  have h := c.valid
  simp only [UInt32.isValidChar, Nat.isValidChar] at h
  omega

theorem next_encodeChar (c : Char) (rest : List UInt8) :
    ∃ first more, String.utf8EncodeChar c = first :: more ∧
      next first (more ++ rest) = (some c, rest) := by
  have hc := toNat_char c
  have hofNat : Char.ofNat c.val.toNat = c := Char.ofNat_toNat c
  unfold String.utf8EncodeChar
  dsimp only
  generalize c.val.toNat = v at hc hofNat
  split
  · refine ⟨_, [], rfl, ?_⟩
    have ha : (UInt8.ofNat v).toNat = v := toNat_ofNat (by omega)
    rw [List.nil_append, next_one (by omega), ha, hofNat]
  · split
    · refine ⟨_, [_], rfl, ?_⟩
      have ha : (UInt8.ofNat (v / 64 % 0x20 + 0xC0)).toNat = v / 64 % 0x20 + 0xC0 :=
        toNat_ofNat (by omega)
      have hv : (v / 64 % 0x20 + 0xC0 - 0xC0) * 64 + (v % 0x40 + 0x80 - 0x80) = v := by omega
      rw [List.singleton_append, next_two (by omega) (by omega)
        (isTail_ofNat (by omega) (by omega)), ha, low_ofNat (by omega), hv, hofNat]
    · split
      · refine ⟨_, [_, _], rfl, ?_⟩
        have ha : (UInt8.ofNat (v / 4096 % 0x10 + 0xE0)).toNat = v / 4096 % 0x10 + 0xE0 :=
          toNat_ofNat (by omega)
        have hb : (UInt8.ofNat (v / 64 % 0x40 + 0x80)).toNat = v / 64 % 0x40 + 0x80 :=
          toNat_ofNat (by omega)
        have hsecond : isSecond (UInt8.ofNat (v / 4096 % 0x10 + 0xE0))
            (UInt8.ofNat (v / 64 % 0x40 + 0x80)) = true := by
          rw [isSecond_iff, ha, hb]
          exact ⟨isTail_ofNat (by omega) (by omega), by omega, by omega, by omega, by omega⟩
        have hv : ((v / 4096 % 0x10 + 0xE0 - 0xE0) * 64 + (v / 64 % 0x40 + 0x80 - 0x80)) * 64 +
            (v % 0x40 + 0x80 - 0x80) = v := by omega
        rw [List.cons_append, List.singleton_append, next_three (by omega) (by omega) hsecond
          (isTail_ofNat (by omega) (by omega)), ha, low_ofNat (by omega), low_ofNat (by omega),
          hv, hofNat]
      · refine ⟨_, [_, _, _], rfl, ?_⟩
        have ha : (UInt8.ofNat (v / 262144 % 0x08 + 0xF0)).toNat = v / 262144 % 0x08 + 0xF0 :=
          toNat_ofNat (by omega)
        have hb : (UInt8.ofNat (v / 4096 % 0x40 + 0x80)).toNat = v / 4096 % 0x40 + 0x80 :=
          toNat_ofNat (by omega)
        have hsecond : isSecond (UInt8.ofNat (v / 262144 % 0x08 + 0xF0))
            (UInt8.ofNat (v / 4096 % 0x40 + 0x80)) = true := by
          rw [isSecond_iff, ha, hb]
          exact ⟨isTail_ofNat (by omega) (by omega), by omega, by omega, by omega, by omega⟩
        have hv : (((v / 262144 % 0x08 + 0xF0 - 0xF0) * 64 + (v / 4096 % 0x40 + 0x80 - 0x80)) * 64 +
            (v / 64 % 0x40 + 0x80 - 0x80)) * 64 + (v % 0x40 + 0x80 - 0x80) = v := by omega
        rw [List.cons_append, List.cons_append, List.singleton_append,
          next_four (by omega) (by omega) hsecond (isTail_ofNat (by omega) (by omega))
            (isTail_ofNat (by omega) (by omega)), ha, low_ofNat (by omega), low_ofNat (by omega),
          low_ofNat (by omega), hv, hofNat]

/-- What is left is an end of what came in. -/
theorem next_suffix (first : UInt8) (rest : List UInt8) : (next first rest).2 <:+ rest := by
  unfold next
  dsimp only
  repeat' split
  all_goals simp [List.suffix_cons_iff]

/-! ## Texts -/

@[simp] theorem encode_nil : encode [] = [] := rfl

theorem encode_cons (c : Char) (cs : List Char) :
    encode (c :: cs) = String.utf8EncodeChar c ++ encode cs := List.flatMap_cons

theorem encode_append (cs ds : List Char) : encode (cs ++ ds) = encode cs ++ encode ds :=
  List.flatMap_append

theorem length_encode (cs : List Char) : (encode cs).length = (String.ofList cs).utf8ByteSize := by
  induction cs with
  | nil => rfl
  | cons c rest ih =>
    rw [encode_cons, List.length_append, ih, String.length_utf8EncodeChar, String.ofList_cons,
      String.utf8ByteSize_append, String.utf8ByteSize_singleton]

theorem length_encode_toList (s : String) : (encode s.toList).length = s.utf8ByteSize := by
  rw [length_encode, String.ofList_toList]

theorem decode?_encode (cs : List Char) : decode? (encode cs) = some cs := by
  induction cs with
  | nil => rw [encode_nil, decode?]
  | cons c rest ih =>
    obtain ⟨first, more, hbytes, hnext⟩ := next_encodeChar c (encode rest)
    rw [encode_cons, hbytes, List.cons_append, decode?, hnext]
    dsimp only
    rw [ih]
    rfl

theorem decodeLossy_encode (cs : List Char) : decodeLossy (encode cs) = cs := by
  induction cs with
  | nil => rw [encode_nil, decodeLossy]
  | cons c rest ih =>
    obtain ⟨first, more, hbytes, hnext⟩ := next_encodeChar c (encode rest)
    rw [encode_cons, hbytes, List.cons_append, decodeLossy, hnext, ih]
    rfl

/-! ## Bytes that are read -/

section EncodeOfNat

variable {n : Nat}

theorem val_ofNat (h : n < 0xD800 ∨ 0xDFFF < n ∧ n < 0x110000) :
    (Char.ofNat n).val.toNat = n := by
  have hvalid : n.isValidChar := by
    unfold Nat.isValidChar
    omega
  have hread : Char.ofNat n = Char.ofNatAux n hvalid := dif_pos hvalid
  rw [hread]
  rfl

theorem encodeChar_one (h : n < 0x80) :
    String.utf8EncodeChar (Char.ofNat n) = [UInt8.ofNat n] := by
  unfold String.utf8EncodeChar
  dsimp only
  rw [val_ofNat (by omega), if_pos (by omega)]

theorem encodeChar_two (h : 0x80 ≤ n) (h' : n < 0x800) :
    String.utf8EncodeChar (Char.ofNat n) =
      [UInt8.ofNat (n / 64 + 0xC0), UInt8.ofNat (n % 64 + 0x80)] := by
  have hfirst : n / 64 % 0x20 = n / 64 := by omega
  unfold String.utf8EncodeChar
  dsimp only
  rw [val_ofNat (by omega), if_neg (by omega), if_pos (by omega), hfirst]

theorem encodeChar_three (h : 0x800 ≤ n) (h' : n < 0xD800 ∨ 0xDFFF < n ∧ n < 0x10000) :
    String.utf8EncodeChar (Char.ofNat n) =
      [UInt8.ofNat (n / 4096 + 0xE0), UInt8.ofNat (n / 64 % 64 + 0x80),
        UInt8.ofNat (n % 64 + 0x80)] := by
  have hfirst : n / 4096 % 0x10 = n / 4096 := by omega
  unfold String.utf8EncodeChar
  dsimp only
  rw [val_ofNat (by omega), if_neg (by omega), if_neg (by omega), if_pos (by omega), hfirst]

theorem encodeChar_four (h : 0x10000 ≤ n) (h' : n < 0x110000) :
    String.utf8EncodeChar (Char.ofNat n) =
      [UInt8.ofNat (n / 262144 + 0xF0), UInt8.ofNat (n / 4096 % 64 + 0x80),
        UInt8.ofNat (n / 64 % 64 + 0x80), UInt8.ofNat (n % 64 + 0x80)] := by
  have hfirst : n / 262144 % 0x08 = n / 262144 := by omega
  unfold String.utf8EncodeChar
  dsimp only
  rw [val_ofNat (by omega), if_neg (by omega), if_neg (by omega), if_neg (by omega), hfirst]

end EncodeOfNat

theorem isTail_iff (b : UInt8) : isTail b = true ↔ 0x80 ≤ b.toNat ∧ b.toNat ≤ 0xBF := by
  simp [isTail]

/-- What is read as a character are the bytes of this character. -/
theorem bytes_of_next {a : UInt8} {rest after : List UInt8} {c : Char}
    (h : next a rest = (some c, after)) : a :: rest = String.utf8EncodeChar c ++ after := by
  unfold next at h
  dsimp only at h
  repeat' split at h
  all_goals simp only [Prod.mk.injEq, reduceCtorEq, false_and, Option.some.injEq] at h
  all_goals obtain ⟨rfl, rfl⟩ := h
  · rw [encodeChar_one (by omega), UInt8.ofNat_toNat]
    rfl
  · rename_i b _ hb
    rw [isTail_iff] at hb
    unfold low
    generalize hn : (a.toNat - 0xC0) * 64 + (b.toNat - 0x80) = n
    have ha' : n / 64 + 0xC0 = a.toNat := by omega
    have hb' : n % 64 + 0x80 = b.toNat := by omega
    rw [encodeChar_two (by omega) (by omega), ha', hb', UInt8.ofNat_toNat, UInt8.ofNat_toNat]
    rfl
  · rename_i b hb _ d _ hd
    rw [isSecond_iff, isTail_iff] at hb
    rw [isTail_iff] at hd
    unfold low
    generalize hn : ((a.toNat - 0xE0) * 64 + (b.toNat - 0x80)) * 64 + (d.toNat - 0x80) = n
    have ha' : n / 4096 + 0xE0 = a.toNat := by omega
    have hb' : n / 64 % 64 + 0x80 = b.toNat := by omega
    have hd' : n % 64 + 0x80 = d.toNat := by omega
    rw [encodeChar_three (by omega) (by omega), ha', hb', hd']
    simp only [UInt8.ofNat_toNat]
    rfl
  · rename_i b hb _ d hd _ e _ he
    rw [isSecond_iff, isTail_iff] at hb
    rw [isTail_iff] at hd he
    unfold low
    generalize hn : (((a.toNat - 0xF0) * 64 + (b.toNat - 0x80)) * 64 + (d.toNat - 0x80)) * 64 +
      (e.toNat - 0x80) = n
    have ha' : n / 262144 + 0xF0 = a.toNat := by omega
    have hb' : n / 4096 % 64 + 0x80 = b.toNat := by omega
    have hd' : n / 64 % 64 + 0x80 = d.toNat := by omega
    have he' : n % 64 + 0x80 = e.toNat := by omega
    rw [encodeChar_four (by omega) (by omega), ha', hb', hd', he']
    simp only [UInt8.ofNat_toNat]
    rfl

theorem eq_encode_of_decode? {bytes : List UInt8} {cs : List Char} (h : decode? bytes = some cs) :
    bytes = encode cs := by
  induction bytes using decode?.induct generalizing cs with
  | case1 =>
    rw [decode?] at h
    obtain rfl := Option.some.inj h
    rfl
  | case2 first rest c after hnext ih =>
    rw [decode?, hnext] at h
    obtain ⟨others, hothers, rfl⟩ := Option.map_eq_some_iff.1 h
    rw [bytes_of_next hnext, encode_cons, ih hothers]
  | case3 first rest after hnext =>
    rw [decode?, hnext] at h
    contradiction

/-- A text has one coding, and only the codings of texts are read. -/
theorem decode?_eq_some_iff {bytes : List UInt8} {cs : List Char} :
    decode? bytes = some cs ↔ bytes = encode cs := by
  constructor
  · exact eq_encode_of_decode?
  · rintro rfl
    exact decode?_encode cs

/-! ## Line feeds -/

/-- A number that is no character is read as the character 0. -/
theorem eq_of_ofNat_eq_lineFeed {n : Nat} (h : Char.ofNat n = '\n') : n = 0x0A := by
  by_cases hn : n.isValidChar
  · have hread : Char.ofNat n = Char.ofNatAux n hn := dif_pos hn
    have hval : (Char.ofNatAux n hn).val.toNat = n := rfl
    rw [← hread, h] at hval
    exact hval.symm
  · have hzero : Char.ofNat n = Char.ofNat 0 := (dif_neg hn).trans (by decide)
    exact absurd (hzero.symm.trans h) (by decide)

theorem lineFeed_of_next {a : UInt8} {rest : List UInt8} (h : (next a rest).1 = some '\n') :
    a = 0x0A := by
  have hval : a.toNat = 0x0A := by
    unfold next at h
    dsimp only at h
    repeat' split at h
    all_goals simp only [reduceCtorEq, Option.some.injEq] at h
    all_goals replace h := eq_of_ofNat_eq_lineFeed h
    -- longer sequences stand for numbers from 0x80 on
    · exact h
    · omega
    · rename_i b hb _ _ _ _
      obtain ⟨-, hleast, -⟩ := (isSecond_iff a b).1 hb
      unfold low at h
      omega
    · rename_i b hb _ _ _ _ _ _ _
      obtain ⟨-, -, -, hleast, -⟩ := (isSecond_iff a b).1 hb
      unfold low at h
      omega
  exact UInt8.toNat_inj.1 hval

theorem lineFeed_mem_of_mem_decodeLossy {bytes : List UInt8} (h : '\n' ∈ decodeLossy bytes) :
    0x0A ∈ bytes := by
  induction bytes using decodeLossy.induct with
  | case1 => simp [decodeLossy] at h
  | case2 first rest ih =>
    rw [decodeLossy] at h
    rcases List.mem_cons.1 h with hfirst | hrest
    · have hnext : (next first rest).1 = some '\n' := by
        cases hchar : (next first rest).1 with
        | none => simp [hchar] at hfirst
        | some c => simp [hchar] at hfirst; rw [hfirst]
      rw [lineFeed_of_next hnext]
      exact List.mem_cons_self
    · exact List.mem_cons_of_mem _ ((next_suffix first rest).subset (ih hrest))

theorem lineFeed_mem_encodeChar {c : Char} (h : 0x0A ∈ String.utf8EncodeChar c) : c = '\n' := by
  have hc := toNat_char c
  suffices c.val.toNat = 0x0A from Char.ext (UInt32.toNat_inj.1 this)
  unfold String.utf8EncodeChar at h
  dsimp only at h
  generalize c.val.toNat = v at h hc
  have hbyte : ∀ n, n < 0x100 → (0x0A = UInt8.ofNat n ↔ n = 0x0A) := by
    intro n hn
    rw [← UInt8.toNat_inj, toNat_ofNat hn]
    exact eq_comm
  repeat' split at h
  all_goals
    simp only [List.mem_cons, List.not_mem_nil, or_false] at h
    repeat rw [hbyte _ (by omega)] at h
    omega

theorem lineFeed_mem_encode {cs : List Char} (h : 0x0A ∈ encode cs) : '\n' ∈ cs := by
  obtain ⟨c, hc, hbyte⟩ := List.mem_flatMap.1 h
  exact lineFeed_mem_encodeChar hbyte ▸ hc

/-! ## Order -/

section Order

variable {x y : List UInt8} {n k : Nat}

theorem cons_lt_of_lt (h : n < k) (hk : k < 0x100) : UInt8.ofNat n :: x < UInt8.ofNat k :: y := by
  have hn : n < 0x100 := Nat.lt_trans h hk
  apply List.cons_lt_cons_iff.2
  left
  rw [UInt8.lt_iff_toNat_lt, toNat_ofNat hn, toNat_ofNat hk]
  exact h

theorem cons_lt_of_eq (h : n = k) (hrest : x < y) : UInt8.ofNat n :: x < UInt8.ofNat k :: y := by
  subst h
  exact List.cons_lt_cons_iff.2 (.inr ⟨rfl, hrest⟩)

theorem digit_lt (h : n < k) : n / 64 < k / 64 ∨ n / 64 = k / 64 ∧ n % 64 < k % 64 := by
  omega

/-- The bytes of a lesser character are less, whatever follows. The first bytes of a longer sequence
are greater than those of a shorter one, and among sequences of one length the first byte that
differs decides as the number does. -/
theorem encodeChar_append_lt {c d : Char} (h : c < d) (x y : List UInt8) :
    String.utf8EncodeChar c ++ x < String.utf8EncodeChar d ++ y := by
  have hlt : c.val.toNat < d.val.toNat := h
  have hd := toNat_char d
  unfold String.utf8EncodeChar
  dsimp only
  generalize c.val.toNat = v at hlt
  generalize d.val.toNat = w at hlt hd
  -- the digits to the base 64 are compared from the last to the first
  have hsplit : ∀ n : Nat, n / 64 / 64 = n / 4096 ∧ n / 64 / 64 / 64 = n / 262144 := by omega
  obtain ⟨hv, hv'⟩ := hsplit v
  obtain ⟨hw, hw'⟩ := hsplit w
  by_cases h1 : v ≤ 0x7F
  · rw [if_pos h1]
    split
    · exact cons_lt_of_lt hlt (by omega)
    · split
      · exact cons_lt_of_lt (by omega) (by omega)
      · split
        · exact cons_lt_of_lt (by omega) (by omega)
        · exact cons_lt_of_lt (by omega) (by omega)
  · have hw1 : ¬ w ≤ 0x7F := by omega
    rw [if_neg h1, if_neg hw1]
    by_cases h2 : v ≤ 0x7FF
    · rw [if_pos h2]
      split
      · rcases digit_lt hlt with hfirst | ⟨hfirst, hsecond⟩
        · exact cons_lt_of_lt (by omega) (by omega)
        · exact cons_lt_of_eq (by omega) (cons_lt_of_lt (by omega) (by omega))
      · split
        · exact cons_lt_of_lt (by omega) (by omega)
        · exact cons_lt_of_lt (by omega) (by omega)
    · have hw2 : ¬ w ≤ 0x7FF := by omega
      rw [if_neg h2, if_neg hw2]
      by_cases h3 : v ≤ 0xFFFF
      · rw [if_pos h3]
        split
        · rcases digit_lt hlt with hlt | ⟨hsecond, hthird⟩
          · rcases digit_lt hlt with hfirst | ⟨hfirst, hsecond⟩
            · exact cons_lt_of_lt (by omega) (by omega)
            · exact cons_lt_of_eq (by omega) (cons_lt_of_lt (by omega) (by omega))
          · exact cons_lt_of_eq (by omega) (cons_lt_of_eq (by omega)
              (cons_lt_of_lt (by omega) (by omega)))
        · exact cons_lt_of_lt (by omega) (by omega)
      · have hw3 : ¬ w ≤ 0xFFFF := by omega
        rw [if_neg h3, if_neg hw3]
        rcases digit_lt hlt with hlt | ⟨hthird, hfourth⟩
        · rcases digit_lt hlt with hlt | ⟨hsecond, hthird⟩
          · rcases digit_lt hlt with hfirst | ⟨hfirst, hsecond⟩
            · exact cons_lt_of_lt (by omega) (by omega)
            · exact cons_lt_of_eq (by omega) (cons_lt_of_lt (by omega) (by omega))
          · exact cons_lt_of_eq (by omega) (cons_lt_of_eq (by omega)
              (cons_lt_of_lt (by omega) (by omega)))
        · exact cons_lt_of_eq (by omega) (cons_lt_of_eq (by omega)
            (cons_lt_of_eq (by omega) (cons_lt_of_lt (by omega) (by omega))))

end Order

theorem append_lt_append (p : List UInt8) {x y : List UInt8} (h : x < y) : p ++ x < p ++ y := by
  induction p with
  | nil => exact h
  | cons a p ih => exact List.cons_lt_cons_iff.2 (.inr ⟨rfl, ih⟩)

/-- Texts are in the order of their bytes. -/
theorem encode_lt_encode {cs ds : List Char} (h : cs < ds) : encode cs < encode ds := by
  induction cs generalizing ds with
  | nil =>
    cases ds with
    | nil => exact absurd h (List.lt_irrefl _)
    | cons d ds =>
      obtain ⟨first, more, hbytes, -⟩ := next_encodeChar d []
      rw [encode_nil, encode_cons, hbytes]
      exact List.nil_lt_cons ..
  | cons c cs ih =>
    cases ds with
    | nil => exact absurd h (List.not_lt_nil _)
    | cons d ds =>
      rw [encode_cons, encode_cons]
      rcases List.cons_lt_cons_iff.1 h with hlt | ⟨rfl, hrest⟩
      · exact encodeChar_append_lt hlt _ _
      · exact append_lt_append _ (ih hrest)

end ArrayWatch.Utf8
