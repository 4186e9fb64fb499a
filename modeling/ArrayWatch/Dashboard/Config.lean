import ArrayWatch.Text.Decimal
import ArrayWatch.Value.Fields

/-!
# Configuration of the dashboard

Where the dashboard listens, and who may read it.

* `DashboardConfig.isProtected_iff`: it asks for credentials when both parts of them are given.
-/

namespace ArrayWatch

structure DashboardConfig where
  enabled : Bool
  bind : String
  port : UInt16
  username : String
  password : String
  deriving DecidableEq, Repr, Inhabited

namespace DashboardConfig

/-- What holds where nothing is configured. -/
def default : DashboardConfig := ⟨true, "0.0.0.0", 8080, "", ""⟩

/-- The number of fields. -/
def fieldCount : Nat := 5

/-- Reads the fields. Each of them may be missing. -/
def ofFields? (fields : Fields) : Option DashboardConfig := do
  let enabled ← fields.read "enabled" 0 Value.bool? default.enabled
  let bind ← fields.read "bind" 1 Value.text? default.bind
  let port ← fields.read "port" 2 (Value.nat? Decimal.word16) default.port.toNat
  let username ← fields.read "username" 3 Value.text? default.username
  let password ← fields.read "password" 4 Value.text? default.password
  return ⟨enabled, bind, UInt16.ofNat port, username, password⟩

/-- Reads a configuration. A list may be longer than the record. -/
def ofValue? (v : Value) : Option DashboardConfig :=
  (Fields.ofValue? v).bind ofFields?

/-- Reads a configuration. A list may not be longer than the record. -/
def ofExactValue? (v : Value) : Option DashboardConfig :=
  ((Fields.ofValue? v).filter (·.fits fieldCount)).bind ofFields?

/-- Whether the dashboard asks for credentials. -/
def isProtected (c : DashboardConfig) : Bool :=
  !c.username.isEmpty && !c.password.isEmpty

theorem isProtected_iff {c : DashboardConfig} :
    c.isProtected = true ↔ c.username ≠ "" ∧ c.password ≠ "" := by
  simp [isProtected]

/-- The address that the dashboard listens at. -/
def listenAddress (c : DashboardConfig) : String :=
  c.bind ++ ":" ++ toString c.port

def toValue (c : DashboardConfig) : Value :=
  .table [("enabled", .bool c.enabled), ("bind", .text c.bind), ("port", .nat c.port.toNat),
    ("username", .text c.username), ("password", .text c.password)]

end DashboardConfig

end ArrayWatch
