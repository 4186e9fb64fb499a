/-!
# Percent escapes

A percent sign with two hexadecimal digits stands for a byte. A percent sign without them stands for
itself.
-/

namespace ArrayWatch.Percent

/-- The value of a hexadecimal digit. -/
def hexValue? (b : UInt8) : Option Nat :=
  let n := b.toNat
  if 48 ≤ n ∧ n ≤ 57 then some (n - 48)
  else if 65 ≤ n ∧ n ≤ 70 then some (n - 55)
  else if 97 ≤ n ∧ n ≤ 102 then some (n - 87)
  else none

/-- The byte of two hexadecimal digits. -/
def escaped? (high low : UInt8) : Option UInt8 := do
  some (UInt8.ofNat ((← hexValue? high) * 16 + (← hexValue? low)))

/-- Replaces every escape by its byte. -/
def decode : List UInt8 → List UInt8
  | 0x25 :: high :: low :: rest =>
    match escaped? high low with
    | some b => b :: decode rest
    | none => 0x25 :: decode (high :: low :: rest)
  | b :: rest => b :: decode rest
  | [] => []

end ArrayWatch.Percent
