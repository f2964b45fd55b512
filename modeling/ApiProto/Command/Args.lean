/-
  The arguments of the command line.

  One argument is the input; the others are options, each at most once.  A long option has its value
  behind a sign of equality or as the next argument; a short one directly behind it, with or without
  such a sign, or as the next argument.  An argument that starts with a hyphen is never the value of
  an option, unless it is the hyphen alone.  Behind `--` everything is input.
-/

namespace ApiProto.Command

/-- The options that take a value. -/
inductive Flag where
  | output
  | profile
  | profileName
  | package
  | config
  | logLevel
  deriving DecidableEq, Repr

/-- What is wrong with arguments, or what they ask for in place of a run. -/
inductive ArgsError where
  | unknownArgument
  | missingArgument
  | missingValue
  | repeatedOption
  | superfluousValue
  | helpRequested
  | versionRequested
  deriving DecidableEq, Repr

/-- The arguments of a run. -/
structure Args where
  input : String
  output : String := "out.proto"
  profile : Option String := none
  profileName : Option String := none
  package : Option String := none
  config : Option String := none
  logLevel : String := "info"
  deriving DecidableEq, Repr

namespace Args

/-- What an option name stands for. -/
inductive Name where
  | flag (f : Flag)
  | help
  | version
  deriving DecidableEq, Repr

/-- The meaning of a long name. -/
def longName? (s : String) : Option Name :=
  [("output", .flag .output), ("profile", .flag .profile), ("profile-name", .flag .profileName),
    ("package", .flag .package), ("config", .flag .config), ("log-level", .flag .logLevel),
    ("help", .help), ("version", .version)].lookup s

/-- The meaning of a short name. -/
def shortName? (c : Char) : Option Name :=
  [('o', .flag .output), ('p', .flag .profile), ('c', .flag .config), ('h', .help),
    ('V', .version)].lookup c

/-- What the arguments so far have given. -/
structure Given where
  input : Option String := none
  values : List (Flag × String) := []
  /-- The last option whose value is an argument of its own, with that value once it is there. -/
  pending : Option (Flag × Option String) := none
  /-- Whether `--` has come. -/
  ended : Bool := false
  deriving DecidableEq, Repr

/-- Adds the value of an option. -/
def Given.add (g : Given) (f : Flag) (v : String) : Except ArgsError Given :=
  if (g.values.lookup f).isSome then .error .repeatedOption
  else .ok { g with values := g.values ++ [(f, v)] }

/-- Completes the pending option. -/
def Given.settle (g : Given) : Except ArgsError Given :=
  match g.pending with
  | none => .ok g
  | some (_, none) => .error .missingValue
  | some (f, some v) => ({ g with pending := none } : Given).add f v

/-- Takes an option that is spelled with its value or without. -/
def Given.take (g : Given) (f : Flag) : Option String → Except ArgsError Given
  | some v => do (← g.settle).add f v
  | none => do .ok { (← g.settle) with pending := some (f, none) }

/-- Takes an argument that is no option. -/
def Given.takeInput (g : Given) (s : String) : Except ArgsError Given :=
  if g.input.isSome then .error .unknownArgument
  else do .ok { (← g.settle) with input := some s }

/-- Splits a text at its first sign of equality. -/
def splitEquals (s : List Char) : String × Option String :=
  (String.ofList (s.takeWhile (· != '=')),
    match s.dropWhile (· != '=') with
    | [] => none
    | _ :: v => some (String.ofList v))

/-- Takes a long option, given without its hyphens. -/
def Given.takeLong (g : Given) (s : List Char) : Except ArgsError Given :=
  let (name, value) := splitEquals s
  match longName? name with
  | none => .error .unknownArgument
  | some (.flag f) => g.take f value
  | some other =>
    if value.isSome then .error .superfluousValue
    else do
      let _ ← g.settle
      .error (if other = .help then .helpRequested else .versionRequested)

/-- Takes a short option, given without its hyphen. -/
def Given.takeShort (g : Given) : List Char → Except ArgsError Given
  | [] => .ok g
  | c :: rest =>
    match shortName? c with
    | none => .error .unknownArgument
    | some (.flag f) =>
      match rest with
      | [] => g.take f none
      | '=' :: v => g.take f (some (String.ofList v))
      | v => g.take f (some (String.ofList v))
    | some other => do
      let _ ← g.settle
      .error (if other = .help then .helpRequested else .versionRequested)

/-- Takes the next argument. -/
def Given.next (g : Given) (s : String) : Except ArgsError Given :=
  if g.ended then g.takeInput s
  else match s.toList with
    | ['-', '-'] => .ok { g with ended := true }
    | '-' :: '-' :: long => g.takeLong long
    | '-' :: c :: short => g.takeShort (c :: short)
    | _ =>
      match g.pending with
      | some (f, none) => .ok { g with pending := some (f, some s) }
      | _ => g.takeInput s

/-- The arguments of a run, or what is wrong with them. -/
def parse (argv : List String) : Except ArgsError Args := do
  let g ← argv.foldlM Given.next {}
  let g ← g.settle
  match g.input with
  | none => .error .missingArgument
  | some input => .ok {
      input
      output := (g.values.lookup .output).getD "out.proto"
      profile := g.values.lookup .profile
      profileName := g.values.lookup .profileName
      package := g.values.lookup .package
      config := g.values.lookup .config
      logLevel := (g.values.lookup .logLevel).getD "info" }

end Args

end ApiProto.Command
