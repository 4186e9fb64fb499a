import ArrayWatch.Text.Quoted

/-!
# Failures on the wire

Why a line is no message, and why a message is not sent or received.
-/

namespace ArrayWatch

/-- Why a line is no message. -/
inductive LineError where
  | emptyLine
  | badKind (head : String)
  | missingName
  deriving DecidableEq, Repr

def LineError.message : LineError → String
  | emptyLine => "empty line"
  | badKind head => "bad message type in " ++ Text.quoted head
  | missingName => "missing message name"

/-- Why a message is not sent or received. -/
inductive WireError where
  | emptyMessage
  | disconnected (reason : String)
  | lineTooLong (limit : Nat)
  | parse (error : LineError)
  | bytesRemaining
  deriving DecidableEq, Repr

def WireError.message : WireError → String
  | emptyMessage => "Message has no words"
  | disconnected reason => "Channel disconnected: " ++ reason
  | lineTooLong limit => "Line exceeds " ++ toString limit ++ " bytes"
  | parse error => "Parse error: " ++ error.message
  | bytesRemaining => "IO error: bytes remaining on stream"

end ArrayWatch
