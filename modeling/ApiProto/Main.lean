/-
  The program at work on the files of the machine.

  Every choice is made by `Host.main`; here are the reads and writes that it asks for.
-/
import ApiProto.Command.Program

namespace ApiProto.Command

/-- What the machine says of a failed read or write. -/
def IoError.ofFailure : IO.Error → IoError
  | .noFileOrDirectory .. => .notFound
  | .permissionDenied _ code details => .other s!"{details} (os error {code})"
  | .inappropriateType _ code details => .other s!"{details} (os error {code})"
  | .invalidArgument _ code details => .other s!"{details} (os error {code})"
  | .resourceExhausted _ code details => .other s!"{details} (os error {code})"
  | .otherError code details => .other s!"{details} (os error {code})"
  | e => .other (toString e)

/-- Whether a path leads to a file: to something that a byte can be read from, or that must not be
read. -/
def isFileOnDisk (path : String) : IO Bool :=
  try
    IO.FS.withFile path .read fun file => do
      let _ ← file.read 1
      return true
  catch
    | .permissionDenied .. => return true
    | _ => return false

/-- The text of a file of the machine. -/
def readFromDisk (path : String) : IO (Except IoError String) :=
  try
    match String.fromUTF8? (← IO.FS.readBinFile path) with
    | some text => return .ok text
    | none => return .error .invalidText
  catch e => return .error (.ofFailure e)

/-- Writes a file of the machine. -/
def writeToDisk (path text : String) : IO (Except IoError Unit) :=
  try
    IO.FS.writeFile path text
    return .ok ()
  catch e => return .error (.ofFailure e)

/-- A record as a line of the log. -/
def logLine (r : LogRecord) : String :=
  let fields := r.fields.map fun (name, value) => " " ++ name ++ "=" ++ value.getD "..."
  "[" ++ r.level.name ++ "] " ++ r.message ++ String.join fields

/-- The path of the user's settings file: below the folder for settings, which the environment
names by a path from the root, or else below the home folder. -/
def userConfigOnDisk : IO (Option String) := do
  let fromRoot (path : String) : Bool := path.startsWith "/"
  let named := (← IO.getEnv "XDG_CONFIG_HOME").filter fromRoot
  let home := ((← IO.getEnv "HOME").filter (· ≠ "")).map (· ++ "/.config")
  return (named.or home).map (· ++ "/protogen/config.toml")

/-- The surroundings that the machine gives. -/
def diskHost (filter : LogFilter) : IO (Host IO) := do
  return {
    isFile := isFileOnDisk
    readText := readFromDisk
    writeText := writeToDisk
    log := fun r => if filter.shows r.level then IO.eprintln (logLine r) else pure ()
    userConfig := ← userConfigOnDisk }

/-- A report as lines. -/
def Report.lines (r : Report) : List String :=
  let label := r.label.map fun l => s!"  at bytes {l.span.offset}+{l.span.length}: {l.text}"
  let cause := r.cause.map ("  cause: " ++ ·)
  let help := r.help.map ("  help: " ++ ·)
  (r.code ++ ": " ++ r.message) :: [label, cause, help].filterMap id

/-- Runs the program on the machine and gives its exit status. -/
def runOnDisk (argv : List String) : IO UInt32 := do
  let filter := match Args.parse argv with
    | .ok args => (logFilter args.logLevel).1
    | .error _ => none
  let outcome ← (← diskHost filter).main argv
  IO.print outcome.output
  IO.eprint outcome.complaint
  for line in outcome.warning.toList do
    IO.eprintln line
  for e in outcome.error.toList do
    if filter.shows .error then
      for line in e.report.lines do
        IO.eprintln line
  return UInt32.ofNat outcome.status

end ApiProto.Command

/-- Runs the program. -/
def main (argv : List String) : IO UInt32 := ApiProto.Command.runOnDisk argv
