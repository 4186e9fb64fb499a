import ArrayWatch.Text.Quoted

/-!
# Malformed informs

Why the payload of an inform cannot be read, and the words for it.
-/

namespace ArrayWatch

/-- What is wrong with an announcement of an array. -/
inductive AnnouncementFault where
  | missingName | missingPorts | badControlPort | badMonitorPort
  deriving DecidableEq, Repr

def AnnouncementFault.message : AnnouncementFault → String
  | missingName => "missing array name"
  | missingPorts => "missing ports"
  | badControlPort => "bad control port"
  | badMonitorPort => "bad monitor port"

/-- Why a payload cannot be read. -/
inductive InformError where
  | announcement (fault : AnnouncementFault) (inform : String)
  | mappingTruncated (byte : Nat)
  | badHostType (byte : Nat)
  | badHostNumber (digits : String) (byte : Nat)
  | unterminatedLabel (text : String)
  | badLabel (text : String)
  deriving DecidableEq, Repr

/-- The reason alone. -/
def InformError.reason : InformError → String
  | announcement fault inform => fault.message ++ ": " ++ inform
  | mappingTruncated byte => "hostname mapping truncated at byte " ++ toString byte
  | badHostType byte => "bad host type at byte " ++ toString byte
  | badHostNumber digits byte =>
    "bad host number " ++ Text.quoted digits ++ " at byte " ++ toString byte
  | unterminatedLabel text => "unterminated input-labelling tuple " ++ Text.quoted text
  | badLabel text => "bad input-labelling tuple (" ++ text ++ ")"

def InformError.message (e : InformError) : String :=
  "Malformed inform: " ++ e.reason

end ArrayWatch
