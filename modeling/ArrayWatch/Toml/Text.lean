/-!
# Blanks, comments and strings of TOML

Every reader takes the characters that are left, and gives back what it read with the characters
after it, or nothing where the text is not well formed. There are four kinds of strings: with
escapes in double quotes, as they are in single quotes, and each of them over several lines between
three quotes.

* `skipBlanks_length_le`, `skipComment_length_le`, `newline?_length_lt`: nothing is read twice.
-/

namespace ArrayWatch.Toml

/-! ## Characters -/

/-- The characters between words. -/
def isBlank (c : Char) : Bool := c == ' ' || c == '\t'

/-- The characters that a comment may hold: everything but control characters. -/
def isVisible (c : Char) : Bool := c == '\t' || (0x20 ≤ c.toNat && c.toNat != 0x7F)

/-- The characters that stand for themselves in double quotes. -/
def isPlain (c : Char) : Bool := isVisible c && c != '"' && c != '\\'

/-- The characters that may stand in single quotes. -/
def isLiteral (c : Char) : Bool := isVisible c && c != '\''

/-! ## Blanks and line ends -/

def skipBlanks (cs : List Char) : List Char := cs.dropWhile isBlank

/-- Goes past one line end. -/
def newline? : List Char → Option (List Char)
  | '\n' :: rest => some rest
  | '\r' :: '\n' :: rest => some rest
  | _ => none

/-- Goes past a comment, if there is one. -/
def skipComment : List Char → List Char
  | '#' :: rest => rest.dropWhile isVisible
  | cs => cs

/-- Goes past the end of a line or of the text, with blanks and a comment before it. -/
def lineEnd? (cs : List Char) : Option (List Char) :=
  match skipComment (skipBlanks cs) with
  | [] => some []
  | rest => newline? rest

theorem skipBlanks_length_le (cs : List Char) : (skipBlanks cs).length ≤ cs.length :=
  (List.dropWhile_sublist _).length_le

theorem skipComment_length_le (cs : List Char) : (skipComment cs).length ≤ cs.length := by
  unfold skipComment
  split
  · rename_i rest
    have h := (List.dropWhile_sublist isVisible : (rest.dropWhile isVisible).Sublist rest).length_le
    simp only [List.length_cons]
    omega
  · exact Nat.le_refl _

theorem newline?_length_lt {cs rest : List Char} (h : newline? cs = some rest) :
    rest.length < cs.length := by
  unfold newline? at h
  split at h
  · cases h; simp
  · cases h; simp only [List.length_cons]; omega
  · contradiction

/-- Goes past blanks, comments and line ends. -/
def skipLines (cs : List Char) : List Char :=
  match _h : newline? (skipComment (skipBlanks cs)) with
  | some rest => skipLines rest
  | none => skipBlanks cs
termination_by cs.length
decreasing_by
  have h1 := newline?_length_lt _h
  have h2 := skipComment_length_le (skipBlanks cs)
  have h3 := skipBlanks_length_le cs
  omega

/-! ## Digits -/

/-- The value of a digit to a base of at most sixteen. -/
def digitValue? (base : Nat) (c : Char) : Option Nat :=
  let n := c.toNat
  let value :=
    if 48 ≤ n ∧ n ≤ 57 then n - 48
    else if 65 ≤ n ∧ n ≤ 70 then n - 55
    else if 97 ≤ n ∧ n ≤ 102 then n - 87
    else base
  if value < base then some value else none

/-- The number of digits to a base. -/
def number? (base : Nat) (digits : List Char) : Option Nat :=
  digits.foldlM (fun n c => (digitValue? base c).map (n * base + ·)) 0

/-! ## Escapes -/

/-- The character with a number, where there is one. -/
def charOfNumber? (digits : List Char) : Option Char :=
  (number? 16 digits).bind fun n => if n.isValidChar then some (Char.ofNat n) else none

/-- The character of an escape of one letter. -/
def escaped? : Char → Option Char
  | 'b' => some '\x08'
  | 't' => some '\t'
  | 'n' => some '\n'
  | 'f' => some '\x0c'
  | 'r' => some '\r'
  | '"' => some '"'
  | '\\' => some '\\'
  | _ => none

/-- A text that was read, and what is left. -/
abbrev Read := Option (List Char × List Char)

/-- Puts a character before a text. -/
def Read.cons (c : Option Char) (r : Read) : Read := do
  let (text, rest) ← r
  return ((← c) :: text, rest)

/-! ## Strings on one line -/

/-- Reads to the closing double quote. -/
def basic : List Char → Read
  | '"' :: rest => some ([], rest)
  | '\\' :: 'u' :: a :: b :: c :: d :: rest => (basic rest).cons (charOfNumber? [a, b, c, d])
  | '\\' :: 'U' :: a :: b :: c :: d :: e :: f :: g :: h :: rest =>
    (basic rest).cons (charOfNumber? [a, b, c, d, e, f, g, h])
  | '\\' :: c :: rest => (basic rest).cons (escaped? c)
  | c :: rest => if isPlain c then (basic rest).cons (some c) else none
  | [] => none

/-- Reads to the closing single quote. -/
def literal (cs : List Char) : Read :=
  match cs.dropWhile isLiteral with
  | '\'' :: rest => some (cs.takeWhile isLiteral, rest)
  | _ => none

/-! ## Strings over several lines -/

/-- What follows three quotes that end a string: up to two more quotes belong to the string. -/
def closing (quote : Char) : List Char → List Char × List Char
  | c :: d :: rest =>
    if c = quote ∧ d = quote then ([quote, quote], rest)
    else if c = quote then ([quote], d :: rest)
    else ([], c :: d :: rest)
  | [c] => if c = quote then ([quote], []) else ([], [c])
  | [] => ([], [])

/-- Whether a backslash before these characters joins lines. -/
def joinsLines (cs : List Char) : Bool := (newline? (skipBlanks cs)).isSome

/-- Reads to three closing double quotes. After a backslash at the end of a line, blanks and line
ends are passed over. -/
def basicLines : (skipping : Bool) → List Char → Read
  | true, '\r' :: '\n' :: rest => basicLines true rest
  | _, '"' :: '"' :: '"' :: rest => some (closing '"' rest)
  | _, '\\' :: 'u' :: a :: b :: c :: d :: rest =>
    (basicLines false rest).cons (charOfNumber? [a, b, c, d])
  | _, '\\' :: 'U' :: a :: b :: c :: d :: e :: f :: g :: h :: rest =>
    (basicLines false rest).cons (charOfNumber? [a, b, c, d, e, f, g, h])
  | _, '\\' :: c :: rest =>
    if joinsLines (c :: rest) then basicLines true rest
    else (basicLines false rest).cons (escaped? c)
  | false, '\r' :: '\n' :: rest => (basicLines false rest).cons (some '\n')
  | skipping, c :: rest =>
    if skipping && (isBlank c || c == '\n') then basicLines true rest
    else if isPlain c || c == '"' || c == '\n' then (basicLines false rest).cons (some c)
    else none
  | _, [] => none

/-- Reads to three closing single quotes. -/
def literalLines : List Char → Read
  | '\'' :: '\'' :: '\'' :: rest => some (closing '\'' rest)
  | '\r' :: '\n' :: rest => (literalLines rest).cons (some '\n')
  | c :: rest =>
    if isVisible c || c == '\n' then (literalLines rest).cons (some c) else none
  | [] => none

/-- Goes past a line end right after the opening quotes. -/
def skipFirstNewline (cs : List Char) : List Char := (newline? cs).getD cs

/-- Reads a string of any kind. -/
def string : List Char → Read
  | '"' :: '"' :: '"' :: rest => basicLines false (skipFirstNewline rest)
  | '"' :: rest => basic rest
  | '\'' :: '\'' :: '\'' :: rest => literalLines (skipFirstNewline rest)
  | '\'' :: rest => literal rest
  | _ => none

end ArrayWatch.Toml
