import ArrayWatch.Wire.Error
import ArrayWatch.Wire.Message

/-!
# Lines

A message as a line: the character of its kind, its name, and its arguments after one space each.
Escapes in the arguments keep spaces, tabs and line ends apart from those that separate, and a lone
`\@` stands for an argument without characters. The name is written as it is.

* `unescape_escape`: every argument is read back from its escaped form.
* `escape_ne_nil`, `not_isSeparator_of_mem_escape`: an escaped argument is one word of the line.
-/

namespace ArrayWatch.Line

/-- The characters between words. -/
def isSeparator (c : Char) : Bool :=
  c == ' ' || c == '\t'

/-! ## Escapes -/

/-- The escape of one character. -/
def escapeChar (c : Char) : List Char :=
  if c = '\\' then ['\\', '\\']
  else if c = ' ' then ['\\', '_']
  else if c = '\x00' then ['\\', '0']
  else if c = '\n' then ['\\', 'n']
  else if c = '\r' then ['\\', 'r']
  else if c = '\x1b' then ['\\', 'e']
  else if c = '\t' then ['\\', 't']
  else [c]

/-- An argument as a word of a line. -/
def escape : List Char → List Char
  | [] => ['\\', '@']
  | cs => cs.flatMap escapeChar

/-- The character that an escape stands for. A character without a meaning of its own after the
backslash stands for itself. -/
def escapedChar (c : Char) : List Char :=
  if c = '_' then [' ']
  else if c = '0' then ['\x00']
  else if c = 'n' then ['\n']
  else if c = 'r' then ['\r']
  else if c = 'e' then ['\x1b']
  else if c = 't' then ['\t']
  else if c = '@' then []
  else [c]

/-- Reads a word of a line. A backslash at the end stands for itself. -/
def unescape : List Char → List Char
  | '\\' :: c :: rest => escapedChar c ++ unescape rest
  | c :: rest => c :: unescape rest
  | [] => []

theorem unescape_escapeChar_append (c : Char) (rest : List Char) :
    unescape (escapeChar c ++ rest) = c :: unescape rest := by
  unfold escapeChar
  split <;> rename_i h1
  · subst h1; simp [unescape, escapedChar]
  split <;> rename_i h2
  · subst h2; simp [unescape, escapedChar]
  split <;> rename_i h3
  · subst h3; simp [unescape, escapedChar]
  split <;> rename_i h4
  · subst h4; simp [unescape, escapedChar]
  split <;> rename_i h5
  · subst h5; simp [unescape, escapedChar]
  split <;> rename_i h6
  · subst h6; simp [unescape, escapedChar]
  split <;> rename_i h7
  · subst h7; simp [unescape, escapedChar]
  · rw [List.singleton_append, unescape.eq_def]
    split
    · rename_i heq
      exact absurd (List.cons.inj heq).1 h1
    · rename_i heq
      obtain ⟨rfl, rfl⟩ := List.cons.inj heq
      rfl
    · rename_i heq
      exact absurd heq (by simp)

theorem unescape_flatMap_escapeChar (cs : List Char) :
    unescape (cs.flatMap escapeChar) = cs := by
  induction cs with
  | nil => rfl
  | cons c rest ih => rw [List.flatMap_cons, unescape_escapeChar_append, ih]

theorem unescape_escape (cs : List Char) : unescape (escape cs) = cs := by
  cases cs with
  | nil => rfl
  | cons c rest => exact unescape_flatMap_escapeChar (c :: rest)

theorem escapeChar_ne_nil (c : Char) : escapeChar c ≠ [] := by
  unfold escapeChar
  repeat' split
  all_goals simp

theorem escape_ne_nil (cs : List Char) : escape cs ≠ [] := by
  cases cs with
  | nil => simp [escape]
  | cons c rest => simp [escape, escapeChar_ne_nil c]

theorem not_isSeparator_of_mem_escapeChar {c d : Char} (h : d ∈ escapeChar c) :
    isSeparator d = false := by
  unfold escapeChar at h
  repeat' split at h
  all_goals simp only [List.mem_cons, List.not_mem_nil, or_false] at h
  all_goals first
    | (rcases h with rfl | rfl <;> decide)
    | (subst h; simp_all [isSeparator])

theorem not_isSeparator_of_mem_escape {cs : List Char} {d : Char} (h : d ∈ escape cs) :
    isSeparator d = false := by
  cases cs with
  | nil =>
    simp only [escape, List.mem_cons, List.not_mem_nil, or_false] at h
    rcases h with rfl | rfl <;> decide
  | cons c rest =>
    obtain ⟨e, _, he⟩ := List.mem_flatMap.1 h
    exact not_isSeparator_of_mem_escapeChar he

/-! ## Messages -/

/-- The words of a line. -/
def words (cs : List Char) : List (List Char) :=
  (cs.splitOnP isSeparator).filter (!·.isEmpty)

/-- Reads a line without its end. -/
def parse (cs : List Char) : Except LineError Message :=
  match words cs with
  | [] => .error .emptyLine
  | head :: args =>
    match head.head?.bind MessageKind.ofTypeChar? with
    | none => .error (.badKind (.ofList head))
    | some kind =>
      if head.tail.isEmpty then .error .missingName
      else .ok ⟨kind, .ofList head.tail :: args.map fun arg => .ofList (unescape arg)⟩

/-- Writes a message as a line without its end. -/
def write (m : Message) : Except WireError (List Char) :=
  match m.words with
  | [] => .error .emptyMessage
  | name :: args =>
    .ok (m.kind.typeChar :: name.toList ++ args.flatMap fun arg => ' ' :: escape arg.toList)

end ArrayWatch.Line
