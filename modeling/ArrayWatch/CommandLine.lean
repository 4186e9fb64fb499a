/-!
# Command line

One option names the configuration file. Without it the file is named by the environment, or has a
name of its own.
-/

namespace ArrayWatch.CommandLine

/-- The environment variable that names the configuration file. -/
def configVariable : String := "KATMON_CONFIG"

/-- The configuration file where none is named. -/
def defaultConfig : String := "config/default.toml"

/-- What the arguments ask for. -/
inductive Command where
  | run (config : String)
  | help
  | version
  deriving DecidableEq, Repr

/-- Why the arguments cannot be followed. -/
inductive UsageError where
  | missingValue
  | repeated
  | unexpected (argument : String)
  deriving DecidableEq, Repr

def UsageError.message : UsageError → String
  | missingValue => "a value is required for '--config <CONFIG>' but none was supplied"
  | repeated => "the argument '--config <CONFIG>' cannot be used multiple times"
  | unexpected argument => "unexpected argument '" ++ argument ++ "' found"

/-- The value in an argument that begins with `start`. -/
def valueAfter? (start argument : String) : Option String :=
  if start.toList.isPrefixOf argument.toList then
    some (.ofList (argument.toList.drop start.length))
  else none

/-- The value of an option and its argument in one. -/
def attached? (argument : String) : Option String :=
  valueAfter? "--config=" argument <|> valueAfter? "-c=" argument <|> valueAfter? "-c" argument

/-- Goes through the arguments. `named` is the file that they have named so far. -/
def parseFrom (environment : Option String) (named : Option String) :
    List String → Except UsageError Command
  | [] => .ok (.run ((named <|> environment).getD defaultConfig))
  | "--help" :: _ | "-h" :: _ => .ok .help
  | "--version" :: _ | "-V" :: _ => .ok .version
  | ["--config"] | ["-c"] => .error .missingValue
  | "--config" :: path :: rest | "-c" :: path :: rest =>
    if named.isSome then .error .repeated else parseFrom environment (some path) rest
  | argument :: rest =>
    match attached? argument with
    | none => .error (.unexpected argument)
    | some path =>
      if named.isSome then .error .repeated else parseFrom environment (some path) rest

/-- What the arguments ask for. -/
def parse (environment : Option String) (arguments : List String) : Except UsageError Command :=
  parseFrom environment none arguments

end ArrayWatch.CommandLine
