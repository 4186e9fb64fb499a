import ArrayWatch.Dashboard.Config
import ArrayWatch.Text.Base64
import ArrayWatch.Text.Blank
import ArrayWatch.Text.Utf8

/-!
# Credentials

Basic authorization: the name of the scheme and a blank, then user and password with a colon between
them, as UTF-8 in base64.
-/

namespace ArrayWatch

namespace Credentials

/-- The characters that the value of a header may have: visible ASCII, blanks and tabs. -/
def isHeaderChar (c : Char) : Bool :=
  (0x20 ≤ c.toNat && c.toNat < 0x7F) || c == '\t'

/-- The scheme before the credentials. -/
def scheme : List Char := "Basic ".toList

/-- The text after the scheme. -/
def afterScheme? (header : List Char) : Option (List Char) :=
  if scheme.isPrefixOf header then some (header.drop scheme.length) else none

/-- The credentials of an authorization header. -/
def decode? (header : List Char) : Option (List Char) := do
  let payload ← if header.all isHeaderChar then afterScheme? header else none
  let bytes ← Base64.decode? (Text.trim payload)
  Utf8.decode? bytes

end Credentials

namespace DashboardConfig

/-- User and password, as they are to be given. -/
def credentials (c : DashboardConfig) : List Char :=
  c.username.toList ++ ':' :: c.password.toList

/-- Whether an authorization header, or its absence, gives the right credentials. -/
def accepts (c : DashboardConfig) (header : Option String) : Bool :=
  (header.bind fun text => Credentials.decode? text.toList) == some c.credentials

/-- Whether a request with this authorization header is answered. -/
def admits (c : DashboardConfig) (header : Option String) : Bool :=
  !c.isProtected || c.accepts header

end DashboardConfig

end ArrayWatch
