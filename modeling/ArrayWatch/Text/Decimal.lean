/-!
# Decimal numbers

Unsigned numbers as the wire, the pattern files and the addresses write them.

* `Decimal.digits?_write`, `Decimal.read?_write`, `Decimal.digits?_writePadded`: the digits that a
  number is written with are read back as it.
-/

namespace ArrayWatch.Decimal

/-- The greatest number of 16 bits. -/
def word16 : Nat := 65535

/-- The greatest number of 32 bits. -/
def word32 : Nat := 4294967295

/-- The greatest number of 64 bits. -/
def word64 : Nat := 18446744073709551615

/-- One or more ASCII digits, with a value of at most `limit`. -/
def digits? (limit : Nat) (cs : List Char) : Option Nat :=
  if cs.isEmpty || !cs.all Char.isDigit then none
  else (some (Nat.ofDigitChars 10 cs 0)).filter (· ≤ limit)

/-- A number of at most `limit`: digits, with a plus sign before them or without. -/
def read? (limit : Nat) : List Char → Option Nat
  | '+' :: cs => digits? limit cs
  | cs => digits? limit cs

/-- The digits of a number. -/
def write (n : Nat) : List Char :=
  Nat.toDigits 10 n

/-- The digits of a number, two at the least. -/
def writePadded (n : Nat) : List Char :=
  if n < 10 then '0' :: write n else write n

/-! ## Reading what is written -/

/-- Numbers are written as the core library writes them. -/
theorem toList_toString (n : Nat) : (toString n).toList = write n := by
  simp [write]

theorem isDigit_of_mem_write {n : Nat} {c : Char} (h : c ∈ write n) : c.isDigit = true :=
  Nat.isDigit_of_mem_toDigits (by decide) (by decide) h

theorem not_mem_write {c : Char} (h : ¬ c.isDigit = true) (n : Nat) : c ∉ write n :=
  fun hmem => h (isDigit_of_mem_write hmem)

theorem digits?_write {limit n : Nat} (h : n ≤ limit) : digits? limit (write n) = some n := by
  have hne : (Nat.toDigits 10 n).isEmpty = false := by
    simp [List.isEmpty_eq_false_iff]
  have hall : (Nat.toDigits 10 n).all Char.isDigit = true := by
    rw [List.all_eq_true]
    exact fun c hc => isDigit_of_mem_write hc
  simp [digits?, write, hne, hall, Nat.ofDigitChars_ten_toDigits, h]

theorem read?_write {limit n : Nat} (h : n ≤ limit) : read? limit (write n) = some n := by
  unfold read?
  split
  · rename_i cs hwrite
    have hplus : '+' ∈ write n := hwrite ▸ List.mem_cons_self
    exact absurd hplus (not_mem_write (by decide) n)
  · exact digits?_write h

theorem digits?_writePadded {limit n : Nat} (h : n ≤ limit) :
    digits? limit (writePadded n) = some n := by
  unfold writePadded
  split
  · have hwrite := digits?_write h
    have hne : (write n).isEmpty = false := by simp [write, List.isEmpty_eq_false_iff]
    unfold digits? at hwrite ⊢
    simpa [hne, Nat.ofDigitChars_cons, Char.isDigit] using hwrite
  · exact digits?_write h

theorem two_le_length_writePadded (n : Nat) : 2 ≤ (writePadded n).length := by
  unfold writePadded write
  split
  · have h : Nat.toDigits 10 n ≠ [] := by simp
    have := List.length_pos_iff.2 h
    simp only [List.length_cons]
    omega
  · have h : (Nat.toDigits 10 n).length ≠ 1 := by
      intro h
      have := (Nat.length_toDigits_le_iff (by decide) (by decide)).1 (Nat.le_of_eq h)
      omega
    have h0 : Nat.toDigits 10 n ≠ [] := by simp
    have := List.length_pos_iff.2 h0
    omega

end ArrayWatch.Decimal
