import ArrayWatch.CommandLine
import ArrayWatch.Link.Basic
import ArrayWatch.Monitor.Config
import ArrayWatch.Text.Utf8

/-!
# Program

Reads the configuration and the pattern file, and says what is watched: the CMCs, and the patterns
that their arrays are subscribed to.
-/

namespace ArrayWatch.Program

/-- The name and the version of the program. -/
def nameAndVersion : String := "katmon 0.1.0"

def help : String :=
  "Aggregate sensor telemetry from correlator CMC servers\n\n" ++
    "Usage: katmon [OPTIONS]\n\nOptions:\n" ++
    "  -c, --config <CONFIG>  Configuration file path [env: " ++ CommandLine.configVariable ++
    "=] [default: " ++ CommandLine.defaultConfig ++ "]\n" ++
    "  -h, --help             Print help\n  -V, --version          Print version"

/-- Why a file could not be read. A wrong type comes with a path where the file could not even be
opened. -/
def fileError : IO.Error → FileError
  | .permissionDenied .. => .permissionDenied
  | .inappropriateType none .. => .isDirectory
  | .inappropriateType .. => .notDirectory
  | .invalidArgument .. => .nameTooLong
  | _ => .notFound

/-- Reads a file as a text. -/
def readText (path : String) : IO (Except FileError String) := do
  if path.toList.contains '\x00' then return .error .zeroInName
  match ← (IO.FS.readBinFile path).toBaseIO with
  | .error e => return .error (fileError e)
  | .ok bytes =>
    match Utf8.decode? bytes.toList with
    | some text => return .ok (.ofList text)
    | none => return .error .notText

/-- The CMCs and the patterns, one on a line. -/
def watchList (config : MonitorConfig) (plan : Plan) : String :=
  "".intercalate (config.cmcs.map fun cmc => peerText cmc.address cmc.port ++ "\n") ++ plan.fileText

/-- Loads the configuration and the plan. -/
def load (path : String) : IO (Except ConfigError (MonitorConfig × Plan)) := do
  let content ← readText path
  match MonitorConfig.ofFile (fun _ => content) path with
  | .error e => return .error e
  | .ok config =>
    let listed ← match config.sensorListFile with
      | some file => readText file
      | none => pure (.error .notFound)
    return (config.plan fun _ => listed).map (config, ·)

/-- Follows a command, and gives the code that the program exits with. -/
def follow : CommandLine.Command → IO UInt32
  | .help => do
    IO.println help
    return 0
  | .version => do
    IO.println nameAndVersion
    return 0
  | .run path => do
    match ← load path with
    | .error e =>
      IO.eprintln ("Error: " ++ e.message)
      return 1
    | .ok (config, plan) =>
      IO.print (watchList config plan)
      return 0

end ArrayWatch.Program

def main (arguments : List String) : IO UInt32 := do
  let environment ← IO.getEnv ArrayWatch.CommandLine.configVariable
  match ArrayWatch.CommandLine.parse environment arguments with
  | .ok command => ArrayWatch.Program.follow command
  | .error e =>
    IO.eprintln ("error: " ++ e.message)
    return 2
