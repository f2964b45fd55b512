/-
  A run: from a definition file to an output file.

  A run reads the settings, the definition, the profiles if a profile file is given, and writes the
  output as its last step, so a run that fails has written nothing.  What it needs of its
  surroundings is a `Host`; `Session.host` is the one that works on a value.
-/
import ApiProto.Command.Args
import ApiProto.Command.Report
import ApiProto.Log.Stages
import ApiProto.Settings.File

namespace ApiProto.Command

/-! ## Surroundings -/

/-- What a run needs of its surroundings. -/
structure Host (m : Type → Type) where
  isFile : String → m Bool
  readText : String → m (Except IoError String)
  writeText : String → String → m (Except IoError Unit)
  log : LogRecord → m Unit
  /-- The path of the user's settings file, if the surroundings have a place for one. -/
  userConfig : Option String

/-- Files, and the records of the work on them. -/
structure Session where
  files : Files
  records : Array LogRecord

/-- The surroundings that a session gives. -/
def Session.host (userConfig : Option String) : Host (StateM Session) where
  isFile path := fun s => (s.files.isFile path, s)
  readText path := fun s => (s.files.readText path, s)
  writeText path text := fun s =>
    match s.files.writeText path text with
    | .error e => (.error e, s)
    | .ok files => (.ok (), { s with files })
  log r := fun s => ((), { s with records := s.records.push r })
  userConfig

variable {m : Type → Type} [Monad m]

/-- Reads a file or fails. -/
def Host.load (h : Host m) (path : String) : ExceptT RunError m String := do
  match ← h.readText path with
  | .ok text => return text
  | .error e => throw (.io e)

/-- Logs records in order. -/
def Host.logAll (h : Host m) : List LogRecord → m Unit
  | [] => pure ()
  | r :: rest => do
    h.log r
    h.logAll rest

/-! ## Settings -/

/-- The path of the settings file that comes before the user's own. -/
def localConfig : String := "protogen/config.toml"

/-- The first of some paths that leads to a file. -/
def Host.findConfig (h : Host m) : List String → m (Option String)
  | [] => pure none
  | path :: rest => do
    h.log ⟨.debug, "Looking for configuration", [LogRecord.field "path" path]⟩
    if ← h.isFile path then return some path
    h.findConfig rest

/-- The path of the settings file in force, if there is one.  A path that is given has to lead to a
file. -/
def Host.configPath (h : Host m) : Option String → ExceptT RunError m (Option String)
  | some path => do
    if ← h.isFile path then return some path
    throw (.missingConfig path)
  | none => h.findConfig (localConfig :: h.userConfig.toList)

/-- The settings in force. -/
def Host.loadSettings (h : Host m) (given : Option String) : ExceptT RunError m Settings := do
  match ← h.configPath given with
  | none =>
    h.log ⟨.debug, "No configuration file found, using defaults", []⟩
    return {}
  | some path =>
    h.log ⟨.info, "Loading configuration", [LogRecord.field "path" path]⟩
    match Settings.read (← h.load path) with
    | some settings => return settings
    | none => throw (.invalidConfig path)

/-! ## Profile -/

/-- The name under which a profile is reported that no file declares. -/
def commandLineProfile : String := "command line"

/-- The profile of arguments that name no profile file. -/
def ownProfile (package : Option String) : Except ProfileError Profile :=
  match package with
  | none => .error (.missingPackage commandLineProfile)
  | some package => do
    let p := Profile.ofPackage package
    p.check commandLineProfile
    return p

/-- Replaces the package of a profile, if one is given, and checks what comes of it. -/
def overridePackage (name : String) (p : Profile) (package : Option String) :
    Except ProfileError Profile := do
  let p := { p with package := package.getD p.package }
  p.check name
  return p

/-- Passes an error of a profile on. -/
def liftProfile {α : Type} : Except ProfileError α → ExceptT RunError m α
  | .ok v => return v
  | .error e => throw (.profile e)

/-- The profile that the arguments select. -/
def Host.resolveProfile (h : Host m) (args : Args) : ExceptT RunError m Profile := do
  match args.profile with
  | none =>
    if args.profileName.isSome then
      h.log ⟨.warn, "Ignoring --profile-name without --profile", []⟩
    liftProfile (ownProfile args.package)
  | some path =>
    h.log ⟨.info, "Loading profiles", [LogRecord.field "path" path]⟩
    let source ← h.load path
    h.logAll (ProfileSet.loadRecords source)
    match ProfileSet.load source with
    | .error e => throw (.load e source)
    | .ok profiles =>
      let name := args.profileName.getD (profiles.keys.head?.getD "")
      let p ← liftProfile (profiles.select args.profileName)
      h.log ⟨.info, "Using profile", [LogRecord.field "profile" name]⟩
      liftProfile (overridePackage name p args.package)

/-! ## Run -/

/-- Loads a definition, as the first step of an output. -/
def Host.parse (h : Host m) (source : String) : ExceptT RunError m Definition := do
  h.logAll (Definition.parseRecords source)
  match Definition.load source with
  | .ok d => return d
  | .error e => throw (.load e source)

/-- Renders a definition. -/
def Host.render (h : Host m) (d : Definition) (profile : Profile) (settings : Settings) :
    ExceptT RunError m String := do
  h.logAll (d.renderRecords profile settings)
  liftProfile (d.render profile settings)

/-- Makes the output that the arguments ask for. -/
def Host.run (h : Host m) (args : Args) : ExceptT RunError m Unit := do
  h.log ⟨.info, "Generating proto",
    [LogRecord.field "input_path" args.input, LogRecord.field "output_path" args.output]⟩
  let settings ← h.loadSettings args.config
  let source ← h.load args.input
  let profile ← h.resolveProfile args
  let definition ← h.parse source
  let text ← h.render definition profile settings
  match ← h.writeText args.output text with
  | .error e => throw (.io e)
  | .ok () =>
    h.log ⟨.info, "Proto exported successfully", [LogRecord.field "output_file" args.output]⟩

end ApiProto.Command
