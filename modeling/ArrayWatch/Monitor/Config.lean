import ArrayWatch.CmcServer.Basic
import ArrayWatch.Dashboard.Config
import ArrayWatch.Monitor.Files
import ArrayWatch.Toml.Document

/-!
# Configuration of the monitor

Which CMCs are watched, what is subscribed to on their arrays, and how often things are done. The
configuration is a TOML document in which everything but the list of CMCs may be left out.
-/

namespace ArrayWatch

/-- Where a CMC is found. -/
structure CmcEndpoint where
  address : String
  port : UInt16
  deriving DecidableEq, Repr, Inhabited

structure MonitorConfig where
  cmcs : List CmcEndpoint
  /-- The pattern file. -/
  sensorListFile : Option String
  /-- Patterns after those of the file. -/
  sensors : List String
  reconnectSecs : Nat
  pollSecs : Nat
  publishMillis : Nat
  enginesPerHost : Nat
  /-- How often a failed request is sent again before it is dropped; zero stands for ever. -/
  maxRetries : UInt32
  dashboard : DashboardConfig
  logLevel : String
  deriving DecidableEq, Repr, Inhabited

/-- Why there is no configuration, or no plan. -/
inductive ConfigError where
  | unreadable (path : String) (cause : FileError)
  | malformed
  | noCmc
  | emptyAddress (port : UInt16)
  | zeroInterval
  | zeroEngines
  | unreadableSensorList (path : String) (cause : FileError)
  | pattern (cause : PlanError)
  deriving DecidableEq, Repr

namespace ConfigError

/-- The reason, without the kind of the failure. -/
def reason : ConfigError → String
  | unreadable path cause => "Failed to read config " ++ path ++ ": " ++ cause.message
  | malformed => "Failed to parse config"
  | noCmc => "at least one CMC is required"
  | emptyAddress port => "CMC with port " ++ toString port ++ " has an empty address"
  | zeroInterval => "reconnect, array-list poll and publish intervals must be positive"
  | zeroEngines => "engines_per_host must be positive"
  | unreadableSensorList path cause =>
    "Failed to read sensor list " ++ path ++ ": " ++ cause.message
  | pattern cause => cause.message

def message (e : ConfigError) : String :=
  match e with
  | pattern _ => "Sensor list error: " ++ e.reason
  | _ => "Configuration error: " ++ e.reason

end ConfigError

namespace CmcEndpoint

def ofValue? (v : Value) : Option CmcEndpoint := do
  let fields ← Fields.ofValue? v
  let address ← fields.required "address" 0 Value.text?
  let port ← fields.read "port" 1 (Value.nat? Decimal.word16) CmcServer.defaultPort.toNat
  return ⟨address, UInt16.ofNat port⟩

def toValue (c : CmcEndpoint) : Value :=
  .table [("address", .text c.address), ("port", .nat c.port.toNat)]

end CmcEndpoint

namespace MonitorConfig

/-- What holds where nothing is configured. -/
def default : MonitorConfig :=
  ⟨[], none, [], 1, 60, 250, defaultEnginesPerHost, 0, .default, "info,katmon=debug"⟩

/-- The settings of the log: its level. -/
def logLevelOfValue? (v : Value) : Option String := do
  (← Fields.ofValue? v).read "log_level" 0 Value.text? default.logLevel

/-- Reads the fields of a document. -/
def ofFields? (fields : Fields) : Option MonitorConfig := do
  let number := Value.nat? Decimal.word64
  let cmcs ← fields.read "cmcs" 0 (Value.list? CmcEndpoint.ofValue?) default.cmcs
  let sensorListFile ←
    fields.read "sensor_list_file" 1 (fun v => v.text?.map some) default.sensorListFile
  let sensors ← fields.read "sensors" 2 (Value.list? Value.text?) default.sensors
  let reconnectSecs ← fields.read "reconnect_interval_secs" 3 number default.reconnectSecs
  let pollSecs ← fields.read "array_list_poll_secs" 4 number default.pollSecs
  let publishMillis ← fields.read "publish_interval_ms" 5 number default.publishMillis
  let enginesPerHost ← fields.read "engines_per_host" 6 number default.enginesPerHost
  let maxRetries ←
    fields.read "max_request_retries" 7 (Value.nat? Decimal.word32) default.maxRetries.toNat
  let dashboard ← fields.read "dashboard" 8 DashboardConfig.ofValue? default.dashboard
  let logLevel ← fields.read "telemetry" 9 logLevelOfValue? default.logLevel
  return ⟨cmcs, sensorListFile, sensors, reconnectSecs, pollSecs, publishMillis, enginesPerHost,
    UInt32.ofNat maxRetries, dashboard, logLevel⟩

/-- What is wrong with a configuration that could be read, if anything is. -/
def fault? (c : MonitorConfig) : Option ConfigError :=
  if c.cmcs.isEmpty then some .noCmc
  else match c.cmcs.find? fun cmc => (Text.trim cmc.address.toList).isEmpty with
    | some cmc => some (.emptyAddress cmc.port)
    | none =>
      if c.reconnectSecs = 0 ∨ c.pollSecs = 0 ∨ c.publishMillis = 0 then some .zeroInterval
      else if c.enginesPerHost = 0 then some .zeroEngines
      else none

/-- Reads a document. -/
def ofToml (text : String) : Except ConfigError MonitorConfig :=
  match ((Toml.parse? text).bind Fields.ofValue?).bind ofFields? with
  | none => .error .malformed
  | some c =>
    match c.fault? with
    | some fault => .error fault
    | none => .ok c

/-- Reads the document in a file. -/
def ofFile (files : Files) (path : String) : Except ConfigError MonitorConfig :=
  match files path with
  | .error cause => .error (.unreadable path cause)
  | .ok text => ofToml text

/-- The plan: the patterns of the file, then the others. -/
def plan (c : MonitorConfig) (files : Files) : Except ConfigError Plan := do
  let listed ← match c.sensorListFile with
    | none => .ok (Plan.empty c.enginesPerHost)
    | some path =>
      match files path with
      | .error cause => .error (.unreadableSensorList path cause)
      | .ok text => (Plan.parse text c.enginesPerHost).mapError .pattern
  match listed.extend c.sensors with
  | (plan, .ok ()) => .ok plan
  | (_, .error cause) => .error (.pattern cause)

/-- The three intervals in milliseconds: between attempts to reconnect, between questions for the
array list, and between snapshots. -/
def intervalMillis (c : MonitorConfig) : List Nat :=
  [c.reconnectSecs * 1000, c.pollSecs * 1000, c.publishMillis]

def toValue (c : MonitorConfig) : Value :=
  .table [("cmcs", .list (c.cmcs.map CmcEndpoint.toValue)),
    ("sensor_list_file", .option .text c.sensorListFile),
    ("sensors", .list (c.sensors.map .text)), ("reconnect_interval_secs", .nat c.reconnectSecs),
    ("array_list_poll_secs", .nat c.pollSecs), ("publish_interval_ms", .nat c.publishMillis),
    ("engines_per_host", .nat c.enginesPerHost),
    ("max_request_retries", .nat c.maxRetries.toNat), ("dashboard", c.dashboard.toValue),
    ("telemetry", .table [("log_level", .text c.logLevel)])]

end MonitorConfig

end ArrayWatch
