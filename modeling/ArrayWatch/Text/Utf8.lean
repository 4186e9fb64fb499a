/-!
# UTF-8

Texts as bytes. Reading goes character by character along the table of well-formed sequences; a
byte that starts none is set aside together with the following bytes that could still have belonged
to it, and the rest is read on from there.

* `next_length_le`: reading on takes no byte twice.
* `decodeLossy` puts the replacement character where `decode?` gives up.
-/

namespace ArrayWatch.Utf8

/-- The bytes of a text. -/
def encode (cs : List Char) : List UInt8 :=
  cs.flatMap String.utf8EncodeChar

/-- The least and the greatest second byte that may follow a first byte of a sequence of three or
four bytes. -/
def secondRange (first : Nat) : Nat × Nat :=
  if first = 0xE0 then (0xA0, 0xBF)
  else if first = 0xED then (0x80, 0x9F)
  else if first = 0xF0 then (0x90, 0xBF)
  else if first = 0xF4 then (0x80, 0x8F)
  else (0x80, 0xBF)

/-- Whether a byte continues a sequence. -/
def isTail (b : UInt8) : Bool :=
  0x80 ≤ b.toNat && b.toNat ≤ 0xBF

/-- Whether `b` may be the second byte after `first`. -/
def isSecond (first b : UInt8) : Bool :=
  (secondRange first.toNat).1 ≤ b.toNat && b.toNat ≤ (secondRange first.toNat).2

/-- The six low bits of a byte that continues a sequence. -/
def low (b : UInt8) : Nat :=
  b.toNat - 0x80

/-- Reads on after the first byte: the character, or nothing where no well-formed sequence goes on,
and the bytes after what was read. -/
def next (first : UInt8) (rest : List UInt8) : Option Char × List UInt8 :=
  let a := first.toNat
  if a < 0x80 then (some (Char.ofNat a), rest)
  else if 0xC2 ≤ a ∧ a ≤ 0xDF then
    match rest with
    | b :: rest₁ =>
      if isTail b then (some (Char.ofNat ((a - 0xC0) * 64 + low b)), rest₁) else (none, rest)
    | [] => (none, rest)
  else if 0xE0 ≤ a ∧ a ≤ 0xEF then
    match rest with
    | b :: rest₁ =>
      if isSecond first b then
        match rest₁ with
        | c :: rest₂ =>
          if isTail c then
            (some (Char.ofNat (((a - 0xE0) * 64 + low b) * 64 + low c)), rest₂)
          else (none, rest₁)
        | [] => (none, rest₁)
      else (none, rest)
    | [] => (none, rest)
  else if 0xF0 ≤ a ∧ a ≤ 0xF4 then
    match rest with
    | b :: rest₁ =>
      if isSecond first b then
        match rest₁ with
        | c :: rest₂ =>
          if isTail c then
            match rest₂ with
            | d :: rest₃ =>
              if isTail d then
                (some (Char.ofNat ((((a - 0xF0) * 64 + low b) * 64 + low c) * 64 + low d)), rest₃)
              else (none, rest₂)
            | [] => (none, rest₂)
          else (none, rest₁)
        | [] => (none, rest₁)
      else (none, rest)
    | [] => (none, rest)
  else (none, rest)

theorem next_length_le (first : UInt8) (rest : List UInt8) :
    (next first rest).2.length ≤ rest.length := by
  unfold next
  dsimp only
  repeat' split
  all_goals simp only [List.length_cons]; omega

/-- The text of a byte string, or nothing when some part of it is not well formed. -/
def decode? : List UInt8 → Option (List Char)
  | [] => some []
  | first :: rest =>
    match _h : next first rest with
    | (some c, rest₁) => (decode? rest₁).map (c :: ·)
    | (none, _) => none
termination_by bytes => bytes.length
decreasing_by
  have := next_length_le first rest
  simp_all only [List.length_cons]
  omega

/-- The text of a byte string, with U+FFFD for every part that is not well formed. -/
def decodeLossy : List UInt8 → List Char
  | [] => []
  | first :: rest => ((next first rest).1.getD '\uFFFD') :: decodeLossy (next first rest).2
termination_by bytes => bytes.length
decreasing_by
  have := next_length_le first rest
  simp only [List.length_cons]
  omega

end ArrayWatch.Utf8
