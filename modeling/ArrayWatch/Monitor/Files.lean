import ArrayWatch.Text.Utf8

/-!
# Text files

The files that a configuration may name, as a function from their paths: reading them is the work of
whoever runs the monitor. Where the files of the working directory are known, a path is walked part
by part, and nothing is known to be in any other directory.
-/

namespace ArrayWatch

/-- Why a file cannot be read as a text. -/
inductive FileError where
  | notFound
  | permissionDenied
  | notDirectory
  | isDirectory
  | nameTooLong
  | zeroInName
  | notText
  deriving DecidableEq, Repr

def FileError.message : FileError → String
  | notFound => "No such file or directory (os error 2)"
  | permissionDenied => "Permission denied (os error 13)"
  | notDirectory => "Not a directory (os error 20)"
  | isDirectory => "Is a directory (os error 21)"
  | nameTooLong => "File name too long (os error 36)"
  | zeroInName => "file name contained an unexpected NUL byte"
  | notText => "stream did not contain valid UTF-8"

/-- The files, by their paths. -/
abbrev Files := String → Except FileError String

/-! ## The working directory -/

/-- The texts of the files in a directory, by their names. -/
structure Directory where
  texts : List (String × String)
  deriving DecidableEq, Repr, Inhabited

/-- Where a path leads. -/
inductive FilePlace where
  | directory (d : Directory)
  | text (content : String)
  deriving DecidableEq, Repr

namespace FilePlace

/-- The most bytes of a name. -/
def nameLimit : Nat := 255

/-- One part of a path further. The parent is another directory. -/
def step : FilePlace → List Char → Except FileError FilePlace
  | text _, _ => .error .notDirectory
  | directory d, name =>
    if name = [] ∨ name = ['.'] then .ok (directory d)
    else if name = ['.', '.'] then .ok (directory ⟨[]⟩)
    else if nameLimit < (Utf8.encode name).length then .error .nameTooLong
    else match d.texts.lookup (.ofList name) with
      | some content => .ok (text content)
      | none => .error .notFound

/-- The text at a place. -/
def content : FilePlace → Except FileError String
  | directory _ => .error .isDirectory
  | text content => .ok content

end FilePlace

namespace Directory

/-- The bytes that are too many for a path. -/
def pathLimit : Nat := 4096

/-- Where a path begins: here, or in another directory where it begins with a slash. -/
def origin (d : Directory) (path : List Char) : FilePlace :=
  .directory (if path.head? = some '/' then ⟨[]⟩ else d)

/-- The text of the file at a path. -/
def read (d : Directory) : Files := fun path =>
  let cs := path.toList
  if cs.contains '\x00' then .error .zeroInName
  else if cs = [] then .error .notFound
  else if pathLimit ≤ (Utf8.encode cs).length then .error .nameTooLong
  else do (← (cs.splitOn '/').foldlM FilePlace.step (d.origin cs)).content

end Directory

end ArrayWatch
