import ArrayWatch.Text.Unprintable

/-!
# Quotations and one-line descriptions

A text in double quotes, with everything that would not show written as an escape, and the one-line
form of records, lists and optional values that descriptions are made of.
-/

namespace ArrayWatch.Text

/-- One character inside double quotes. -/
def quotedChar (c : Char) : List Char :=
  if c = '"' then ['\\', '"']
  else if c = '\\' then ['\\', '\\']
  else if c = '\t' then ['\\', 't']
  else if c = '\r' then ['\\', 'r']
  else if c = '\n' then ['\\', 'n']
  else if c = '\x00' then ['\\', '0']
  else if isUnprintable c then "\\u\x7b".toList ++ Nat.toDigits 16 c.toNat ++ "\x7d".toList
  else [c]

/-- A text in double quotes. -/
def quoted (text : String) : String :=
  String.ofList ('"' :: text.toList.flatMap quotedChar ++ ['"'])

/-! ## Descriptions -/

/-- A record: its name, then its fields in order. -/
def describeRecord (name : String) (fields : List (String × String)) : String :=
  name ++ " \x7b " ++ ", ".intercalate (fields.map fun (field, value) => field ++ ": " ++ value) ++
    " \x7d"

/-- A list. -/
def describeList (items : List String) : String :=
  "[" ++ ", ".intercalate items ++ "]"

/-- An optional value. -/
def describeOption : Option String → String
  | some text => "Some(" ++ text ++ ")"
  | none => "None"

end ArrayWatch.Text
