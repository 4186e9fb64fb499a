import ArrayWatch.Text.Utf8

/-!
# Digests of label values

A series is known by a digest of its label values, the FNV-1a digest of 64 bits over their bytes run
together. Two combinations with one digest are one series.
-/

namespace ArrayWatch.LabelDigest

/-- The digest of no bytes. -/
def start : UInt64 := 0xcbf29ce484222325

/-- The factor by which every byte spreads. -/
def factor : UInt64 := 0x100000001b3

/-- Takes one more byte into a digest. -/
def absorb (digest : UInt64) (b : UInt8) : UInt64 :=
  (digest ^^^ b.toUInt64) * factor

/-- The bytes of label values, run together. -/
def bytes (values : List String) : List UInt8 :=
  values.flatMap fun value => Utf8.encode value.toList

/-- The digest of label values. -/
def digest (values : List String) : UInt64 :=
  (bytes values).foldl absorb start

end ArrayWatch.LabelDigest
