/-!
# Base64

The standard alphabet with padding. A text is read only when it is the one that `encode` writes:
the padding has to be there, and the bits that it leaves over have to be zero.
-/

namespace ArrayWatch.Base64

/-- The character of a group of six bits. -/
def letter (n : Nat) : Char :=
  if n < 26 then Char.ofNat (65 + n)
  else if n < 52 then Char.ofNat (97 + (n - 26))
  else if n < 62 then Char.ofNat (48 + (n - 52))
  else if n = 62 then '+'
  else '/'

/-- The group of six bits of a character. -/
def value? (c : Char) : Option Nat :=
  let n := c.toNat
  if 65 ≤ n ∧ n ≤ 90 then some (n - 65)
  else if 97 ≤ n ∧ n ≤ 122 then some (n - 97 + 26)
  else if 48 ≤ n ∧ n ≤ 57 then some (n - 48 + 52)
  else if c = '+' then some 62
  else if c = '/' then some 63
  else none

/-- Writes three bytes as four characters, and pads the last group. -/
def encode : List UInt8 → List Char
  | a :: b :: c :: rest =>
    let n := (a.toNat * 256 + b.toNat) * 256 + c.toNat
    letter (n / 262144) :: letter (n / 4096 % 64) :: letter (n / 64 % 64) :: letter (n % 64) ::
      encode rest
  | [a, b] =>
    let n := (a.toNat * 256 + b.toNat) * 4
    [letter (n / 4096), letter (n / 64 % 64), letter (n % 64), '=']
  | [a] =>
    let n := a.toNat * 16
    [letter (n / 64), letter (n % 64), '=', '=']
  | [] => []

/-- Reads what `encode` writes, and nothing else. -/
def decode? : List Char → Option (List UInt8)
  | [] => some []
  | [a, b, '=', '='] => do
    let n := (← value? a) * 64 + (← value? b)
    if n % 16 = 0 then some [UInt8.ofNat (n / 16)] else none
  | [a, b, c, '='] => do
    let n := ((← value? a) * 64 + (← value? b)) * 64 + (← value? c)
    if n % 4 = 0 then some [UInt8.ofNat (n / 1024), UInt8.ofNat (n / 4 % 256)] else none
  | a :: b :: c :: d :: rest => do
    let n := (((← value? a) * 64 + (← value? b)) * 64 + (← value? c)) * 64 + (← value? d)
    let bytes ← decode? rest
    some (UInt8.ofNat (n / 65536) :: UInt8.ofNat (n / 256 % 256) :: UInt8.ofNat (n % 256) :: bytes)
  | _ => none

end ArrayWatch.Base64
