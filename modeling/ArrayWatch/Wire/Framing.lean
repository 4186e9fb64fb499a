import ArrayWatch.Text.Blank
import ArrayWatch.Text.Utf8
import ArrayWatch.Wire.Line

/-!
# Framing

A byte stream as messages. A line ends with a line feed; carriage returns before it do not count.
Blank lines and lines that are no messages are skipped. A line of more bytes than the limit is a
failure, also while its end has not come yet.

* `LineReader.decode` takes the next message from the bytes that have come so far, and remembers how
  many of them it has already searched for the end of a line.
* `LineReader.cutLine_length_lt`: a line that is cut off leaves fewer bytes.
-/

namespace ArrayWatch

/-- The byte that ends a line. -/
def lineFeed : UInt8 := 0x0A

/-- The greatest number of bytes in a line, unless another is asked for. -/
def defaultLineLimit : Nat := 1048576

/-- A reader of lines: the limit, and how many bytes of the buffer hold no line feed. -/
structure LineReader where
  limit : Nat
  searched : Nat
  deriving DecidableEq, Repr

namespace LineReader

def new (limit : Nat) : LineReader := ⟨limit, 0⟩

/-- The bytes before the first line feed at or after a position, and the bytes after it. -/
def cutLine (searched : Nat) (buffer : List UInt8) : Option (List UInt8 × List UInt8) :=
  let unsearched := buffer.drop searched
  match unsearched.dropWhile (· != lineFeed) with
  | [] => none
  | _ :: rest => some (buffer.take searched ++ unsearched.takeWhile (· != lineFeed), rest)

theorem cutLine_length_lt {searched : Nat} {buffer line rest : List UInt8}
    (h : cutLine searched buffer = some (line, rest)) : rest.length < buffer.length := by
  unfold cutLine at h
  dsimp only at h
  split at h
  · contradiction
  · rename_i b after hdrop
    simp only [Option.some.injEq, Prod.mk.injEq] at h
    obtain ⟨_, rfl⟩ := h
    have h1 : (b :: after).length ≤ (buffer.drop searched).length := by
      rw [← hdrop]
      exact (List.dropWhile_sublist _).length_le
    simp only [List.length_cons, List.length_drop] at h1
    omega

/-- The text of a line. -/
def lineText (line : List UInt8) : List Char :=
  Text.trimEndWhile (fun c => c == '\n' || c == '\r') (Utf8.decodeLossy line)

/-- The message of a line, where there is one. -/
def lineMessage? (line : List UInt8) : Option Message :=
  let text := lineText line
  if (Text.trim text).isEmpty then none else (Line.parse text).toOption

/-- Takes the next message from a buffer, or nothing while none is complete. -/
def decode (reader : LineReader) (buffer : List UInt8) :
    Except WireError (Option Message) × LineReader × List UInt8 :=
  match _h : cutLine reader.searched buffer with
  | none =>
    if reader.limit < buffer.length then (.error (.lineTooLong reader.limit), reader, buffer)
    else (.ok none, { reader with searched := buffer.length }, buffer)
  | some (line, rest) =>
    let reader := { reader with searched := 0 }
    if reader.limit < line.length then (.error (.lineTooLong reader.limit), reader, rest)
    else
      match lineMessage? line with
      | some message => (.ok (some message), reader, rest)
      | none => decode reader rest
termination_by buffer.length
decreasing_by exact cutLine_length_lt _h

/-- Takes the last message at the end of the stream, where no bytes may be left over. -/
def decodeEnd (reader : LineReader) (buffer : List UInt8) :
    Except WireError (Option Message) × LineReader × List UInt8 :=
  match decode reader buffer with
  | (.ok none, reader, rest) =>
    (if rest.isEmpty then .ok none else .error .bytesRemaining, reader, rest)
  | result => result

end LineReader

/-- A message as a line of bytes. -/
def Message.encode (m : Message) : Except WireError (List UInt8) :=
  (Line.write m).map fun line => Utf8.encode (line ++ ['\n'])

end ArrayWatch
