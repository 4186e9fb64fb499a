import ArrayWatch.Toml.Tables

/-!
# TOML documents

The tables of a document as one value. A mark for the order of bytes may stand before the text.
-/

namespace ArrayWatch.Toml

/-- Goes past the mark for the order of bytes. -/
def skipMark : List Char → List Char
  | '\uFEFF' :: rest => rest
  | cs => cs

/-- Reads a document. -/
def ofChars? (cs : List Char) : Option Value := do
  let statements ← statements? inlineTable (skipMark cs)
  let entries ← ofStatements statements
  return .table (entriesToValue entries)

/-- Reads a document. -/
def parse? (text : String) : Option Value := ofChars? text.toList

end ArrayWatch.Toml
