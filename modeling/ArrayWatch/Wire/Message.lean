import ArrayWatch.Text.Quoted
import ArrayWatch.Value

/-!
# Messages

A message of the KATCP protocol is a kind and a list of words. Word 0 is the name of the message,
the others are its arguments, so that `arg? 1` is the first argument.
-/

namespace ArrayWatch

/-- A request asks, a reply answers one request, an inform tells something unasked. -/
inductive MessageKind where
  | request | reply | inform
  deriving DecidableEq, Repr, Inhabited

namespace MessageKind

/-- The character that a line of this kind starts with. -/
def typeChar : MessageKind → Char
  | request => '?'
  | reply => '!'
  | inform => '#'

def ofTypeChar? : Char → Option MessageKind
  | '?' => some request
  | '!' => some reply
  | '#' => some inform
  | _ => none

theorem ofTypeChar?_eq_some_iff {c : Char} {kind : MessageKind} :
    ofTypeChar? c = some kind ↔ c = kind.typeChar := by
  constructor
  · intro h
    unfold ofTypeChar? at h
    split at h <;> simp_all [typeChar] <;> subst h <;> rfl
  · rintro rfl
    cases kind <;> rfl

/-- The word for the kind. -/
def word : MessageKind → String
  | request => "request"
  | reply => "reply"
  | inform => "inform"

def describe : MessageKind → String
  | request => "Request"
  | reply => "Reply"
  | inform => "Inform"

end MessageKind

/-- A kind and the words. -/
structure Message where
  kind : MessageKind
  words : List String
  deriving DecidableEq, Repr, Inhabited

namespace Message

def request (name : String) (args : List String) : Message :=
  ⟨.request, name :: args⟩

/-- Asks for every update of a sensor. -/
def sensorSampling (sensor : String) : Message :=
  request "sensor-sampling" [sensor, "auto"]

/-- The word at a position. -/
def arg? (m : Message) (index : Nat) : Option String := m.words[index]?

def name? (m : Message) : Option String := m.words.head?

/-- The number of words after the name. -/
def argCount (m : Message) : Nat := m.words.length - 1

/-- Whether this is a reply that says that the request succeeded. -/
def isOkReply (m : Message) : Bool :=
  m.kind == .reply && m.arg? 1 == some "ok"

/-- The message on one line for people to read: its words as they are, without escapes. -/
def compose (m : Message) : String :=
  String.singleton m.kind.typeChar ++ " ".intercalate m.words

def toValue (m : Message) : Value :=
  .table [("kind", .text m.kind.word), ("words", .list (m.words.map .text))]

def describe (m : Message) : String :=
  Text.describeRecord "Message"
    [("kind", m.kind.describe), ("words", Text.describeList (m.words.map Text.quoted))]

end Message

end ArrayWatch
