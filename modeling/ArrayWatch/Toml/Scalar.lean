import ArrayWatch.Toml.Text
import ArrayWatch.Value

/-!
# Numbers, dates and words of TOML

A value that is neither a string nor a collection is one token. Underscores may stand between the
digits of a number. Whole numbers have 64 bits with a sign.
-/

namespace ArrayWatch.Toml

/-! ## Digits with underscores -/

/-- The digits of groups between underscores. No group is empty. -/
def groups? (base : Nat) (cs : List Char) : Option (List Char) :=
  let groups := cs.splitOn '_'
  if groups.all fun group => !group.isEmpty && group.all fun c => (digitValue? base c).isSome then
    some groups.flatten
  else none

/-- A sign, and what stands after it. -/
def sign : List Char → Bool × List Char
  | '+' :: rest => (false, rest)
  | '-' :: rest => (true, rest)
  | cs => (false, cs)

/-- The digits of a decimal number, without a zero in front of others. -/
def decimalDigits? (cs : List Char) : Option (List Char) :=
  (groups? 10 cs).filter fun digits => digits.head? != some '0' || cs.length == 1

/-! ## Whole numbers -/

/-- The greatest whole number. -/
def maxInteger : Nat := 9223372036854775807

/-- A whole number with a sign, if it has 64 bits. -/
def signed? (negative : Bool) (n : Nat) : Option Value :=
  if negative then if n ≤ maxInteger + 1 then some (.int (-(n : Int))) else none
  else if n ≤ maxInteger then some (.int n) else none

/-- A whole number, to the base that it is written in. -/
def integer? (token : List Char) : Option Value :=
  match token with
  | '0' :: 'x' :: cs => ((groups? 16 cs).bind (number? 16)).bind (signed? false)
  | '0' :: 'o' :: cs => ((groups? 8 cs).bind (number? 8)).bind (signed? false)
  | '0' :: 'b' :: cs => ((groups? 2 cs).bind (number? 2)).bind (signed? false)
  | _ =>
    let (negative, cs) := sign token
    ((decimalDigits? cs).bind (number? 10)).bind (signed? negative)

/-! ## Numbers with a fraction or an exponent -/

/-- Splits at the first character of a class: what stands before and what stands after it. -/
def cutAt (p : Char → Bool) (cs : List Char) : List Char × Option (List Char) :=
  (cs.takeWhile (!p ·), match cs.dropWhile (!p ·) with
    | [] => none
    | _ :: rest => some rest)

/-- Whether a positive number is too great for 64 bits: `digits` without their leading zeros, times
ten to the `exponent`. Half a unit beyond the greatest number is too great already. -/
def overflows (digits : List Char) (exponent : Int) : Bool :=
  let digits := digits.dropWhile (· == '0')
  let size := digits.length + exponent
  let limit := Nat.pow 2 1024 - Nat.pow 2 970
  if digits.isEmpty || size < 300 then false
  else if 400 < size then true
  else
    let n := (number? 10 digits).getD 0
    if 0 ≤ exponent then decide (limit ≤ n * Nat.pow 10 exponent.toNat)
    else decide (limit * Nat.pow 10 (-exponent).toNat ≤ n)

/-- A number with a fraction or an exponent. A positive number that is too great is none. -/
def decimal? (token : List Char) : Option Value := do
  let (negative, cs) := sign token
  let (mantissa, exponent) := cutAt (fun c => c == 'e' || c == 'E') cs
  let (whole, fraction) := cutAt (· == '.') mantissa
  if fraction.isNone && exponent.isNone then none
  let wholeDigits ← decimalDigits? whole
  let fractionDigits ← match fraction with
    | none => some []
    | some cs => groups? 10 cs
  let power ← match exponent with
    | none => some 0
    | some cs =>
      let (negative, cs) := sign cs
      let n ← (groups? 10 cs).bind (number? 10)
      some (if negative then -(n : Int) else n)
  let digits := wholeDigits ++ fractionDigits
  if !negative && overflows digits (power - fractionDigits.length) then none
  else some (.decimal (.ofList token))

/-- The two words for values that are no numbers, with a sign or without. -/
def unbounded? (token : List Char) : Option Value :=
  if ["inf", "nan"].contains (String.ofList (sign token).2) then some (.decimal (.ofList token))
  else none

/-! ## Dates and times -/

/-- A number of exactly two digits from `low` to `high`. -/
def pair? (low high : Nat) (a b : Char) : Option Nat :=
  (number? 10 [a, b]).filter fun n => low ≤ n && n ≤ high

/-- The number of days in a month. -/
def daysIn (year month : Nat) : Nat :=
  if month = 2 then
    if year % 4 = 0 ∧ (year % 100 ≠ 0 ∨ year % 400 = 0) then 29 else 28
  else if month = 4 ∨ month = 6 ∨ month = 9 ∨ month = 11 then 30
  else 31

/-- Goes past a date. -/
def date? : List Char → Option (List Char)
  | a :: b :: c :: d :: '-' :: e :: f :: '-' :: g :: h :: rest => do
    let year ← number? 10 [a, b, c, d]
    let month ← pair? 1 12 e f
    let _ ← pair? 1 (daysIn year month) g h
    return rest
  | _ => none

/-- Goes past a fraction of a second. -/
def skipFraction : List Char → List Char
  | '.' :: c :: rest =>
    if c.isDigit then rest.dropWhile Char.isDigit else '.' :: c :: rest
  | cs => cs

/-- Goes past a time of day. -/
def time? : List Char → Option (List Char)
  | a :: b :: ':' :: c :: d :: ':' :: e :: f :: rest => do
    let _ ← pair? 0 23 a b
    let _ ← pair? 0 59 c d
    let _ ← pair? 0 60 e f
    return skipFraction rest
  | _ => none

/-- Whether this is the distance of a time zone, or nothing. -/
def isZone : List Char → Bool
  | [] | ['Z'] | ['z'] => true
  | [s, a, b, ':', c, d] =>
    (s == '+' || s == '-') && (pair? 0 23 a b).isSome && (pair? 0 59 c d).isSome
  | _ => false

/-- Whether this is a time of day with or without a time zone. -/
def isZonedTime (cs : List Char) : Bool := (time? cs).any isZone

/-- A date, a time of day, or both with `T` between them. -/
def date (token : List Char) : Option Value :=
  let valid := match date? token with
    | some [] => true
    | some (c :: rest) => (c == 'T' || c == 't') && isZonedTime rest
    | none => time? token == some []
  if valid then some (.date (.ofList token)) else none

/-! ## Tokens -/

def bool? (token : List Char) : Option Value :=
  if token = "true".toList then some (.bool true)
  else if token = "false".toList then some (.bool false)
  else none

/-- The characters of tokens. -/
def isTokenChar (c : Char) : Bool :=
  c.isAlphanum || c == '+' || c == '-' || c == '_' || c == '.' || c == ':'

/-- The value of a token. -/
def ofToken? (token : List Char) : Option Value :=
  bool? token <|> date token <|> integer? token <|> decimal? token <|> unbounded? token

/-- A time of day after a date and one blank belongs to the date. -/
def timeAfterDate? (token rest : List Char) : Option (List Char × List Char) :=
  match rest with
  | ' ' :: rest =>
    let time := rest.takeWhile isTokenChar
    if date? token = some [] ∧ isZonedTime time then
      some (token ++ ' ' :: time, rest.dropWhile isTokenChar)
    else none
  | _ => none

/-- Reads a value that is one token. -/
def scalar? (cs : List Char) : Option (Value × List Char) :=
  let token := cs.takeWhile isTokenChar
  let rest := cs.dropWhile isTokenChar
  match timeAfterDate? token rest with
  | some (text, rest) => some (.date (.ofList text), rest)
  | none => (ofToken? token).map (·, rest)

end ArrayWatch.Toml
