/-
  The program: arguments, help, a run, and the exit status.
-/
import ApiProto.Command.Run

namespace ApiProto.Command

/-- The name and version of the program. -/
def versionText : String := "protogen-cli 0.1.0\n"

/-- The lines of the usage. -/
def usageText : String := "Usage: protogen [OPTIONS] <INPUT>\n"

/-- The help. -/
def helpText : String :=
  "Command-line interface for protogen\n\n" ++ usageText ++ "\n" ++
  "Arguments:\n" ++
  "  <INPUT>  Path to the API definition file\n\n" ++
  "Options:\n" ++
  "  -o, --output <OUTPUT>              Path to the output proto file [default: out.proto]\n" ++
  "  -p, --profile <PROFILE>            Path to a profile file (JSON)\n" ++
  "      --profile-name <PROFILE_NAME>  Name of the profile to use; the first profile in the file " ++
    "by default\n" ++
  "      --package <PACKAGE>            Proto package name, overriding the one from the profile\n" ++
  "  -c, --config <CONFIG>              Path to configuration file (TOML)\n" ++
  "      --log-level <LOG_LEVEL>        Log level (off, error, warn, info, debug, trace) " ++
    "[default: info]\n" ++
  "  -h, --help                         Print help\n" ++
  "  -V, --version                      Print version\n"

/-- The wording of a fault of the arguments. -/
def ArgsError.message : ArgsError → String
  | .unknownArgument => "error: unexpected argument\n\n" ++ usageText
  | .missingArgument => "error: the argument <INPUT> is required\n\n" ++ usageText
  | .missingValue => "error: an option lacks its value\n\n" ++ usageText
  | .repeatedOption => "error: an option is given more than once\n\n" ++ usageText
  | .superfluousValue => "error: an option takes no value\n\n" ++ usageText
  | .helpRequested => helpText
  | .versionRequested => versionText

/-- Whether the program ends well on such arguments, having shown what they ask for. -/
def ArgsError.isRequest : ArgsError → Bool
  | .helpRequested | .versionRequested => true
  | _ => false

/-- The exit status for such arguments. -/
def ArgsError.status (e : ArgsError) : Nat := if e.isRequest then 0 else 2

/-- The filter of the given level, and a warning if there is no such level. -/
def logFilter (level : String) : LogFilter × Option String :=
  match LogFilter.ofName? level with
  | some f => (f, none)
  | none => (some .warn, some ("Invalid log level: " ++ level ++ ". Using 'warn' instead."))

/-- What the program leaves behind, its files apart. -/
structure Outcome where
  status : Nat
  /-- The text on standard output. -/
  output : String := ""
  /-- The text on standard error that complains of the arguments. -/
  complaint : String := ""
  /-- The warning about the log level. -/
  warning : Option String := none
  /-- Why there is no output file. -/
  error : Option RunError := none

/-- Runs the program on its arguments. -/
def Host.main {m : Type → Type} [Monad m] (h : Host m) (argv : List String) : m Outcome := do
  match Args.parse argv with
  | .error e =>
    return if e.isRequest then { status := e.status, output := e.message }
      else { status := e.status, complaint := e.message }
  | .ok args =>
    let warning := (logFilter args.logLevel).2
    match ← (h.run args).run with
    | .ok () => return { status := 0, warning }
    | .error e => return { status := 1, warning, error := some e }

end ApiProto.Command
