/-
  Log records: what the program tells about its work.
-/

namespace ApiProto

/-- How important a record is. -/
inductive LogLevel where
  | error
  | warn
  | info
  | debug
  | trace
  deriving DecidableEq, Repr

namespace LogLevel

/-- The name of the level. -/
def name : LogLevel → String
  | .error => "ERROR"
  | .warn => "WARN"
  | .info => "INFO"
  | .debug => "DEBUG"
  | .trace => "TRACE"

/-- The rank of the level; a filter lets lower ranks pass too. -/
def rank : LogLevel → Nat
  | .error => 1
  | .warn => 2
  | .info => 3
  | .debug => 4
  | .trace => 5

/-- The levels from the most important one on. -/
def all : List LogLevel := [.error, .warn, .info, .debug, .trace]

end LogLevel

/-- The least important level that is shown; none if nothing is. -/
abbrev LogFilter := Option LogLevel

namespace LogFilter

/-- The filter of a name, in which the case of Latin letters does not count. -/
def ofName? (s : String) : Option LogFilter :=
  let upper := s.map Char.toUpper
  if upper = "OFF" then some none else (LogLevel.all.find? fun l => l.name == upper).map some

/-- Whether the filter shows records of a level. -/
def shows (f : LogFilter) (l : LogLevel) : Bool := f.any fun most => l.rank ≤ most.rank

end LogFilter

/-- A message with named fields.  The text of a field is left out if it is a whole definition. -/
structure LogRecord where
  level : LogLevel
  message : String
  fields : List (String × Option String) := []
  deriving DecidableEq, Repr

namespace LogRecord

/-- A field. -/
def field (name value : String) : String × Option String := (name, some value)

/-- A field that counts something. -/
def count (name : String) (n : Nat) : String × Option String := (name, some (toString n))

end LogRecord

end ApiProto
