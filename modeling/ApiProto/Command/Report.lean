/-
  Errors of a run, and how they are reported.

  A fault of a JSON text is shown with the character at its position; other errors have no place in
  a text.
-/
import ApiProto.Command.Files
import ApiProto.LoadError

namespace ApiProto.Command

/-- Why a run has no output. -/
inductive RunError where
  | io (e : IoError)
  | load (e : LoadError) (source : String)
  | profile (e : ProfileError)
  | missingConfig (path : String)
  /-- The file at the path holds no settings.  What the reader of the file has found wrong with it
  is not kept. -/
  | invalidConfig (path : String)

/-- A stretch of the text at fault, and what it is. -/
structure Label where
  text : String
  span : Text.Span
  deriving DecidableEq, Repr

/-- What is shown of an error.  The cause is the error below it, and `hasSource` tells whether the
text at fault is shown. -/
structure Report where
  message : String
  code : String
  help : Option String := none
  label : Option Label := none
  cause : Option String := none
  hasSource : Bool := false
  deriving DecidableEq, Repr

/-- The report of an error of loading a text. -/
def loadReport (e : LoadError) (source : String) : Report where
  message := e.message
  code := e.code.text
  help := e.help
  label := e.location.map fun p =>
    ⟨e.code.description, Text.spanAt source.toList p.line p.column⟩
  hasSource := e.location.isSome

/-- The report of an error.  The message about a file that holds no settings ends with its path: the
wording of the fault that the reader of the file found, which would follow behind a colon, is left
out. -/
def RunError.report : RunError → Report
  | .io e => {
      message := "I/O error: " ++ e.text
      code := "protogen::io"
      cause := some e.text }
  | .load e source => loadReport e source
  | .profile e => { message := e.message, code := e.code.text, help := e.help }
  | .missingConfig path => {
      message := "Configuration error: config file " ++ Json.backquoted path ++ " does not exist"
      code := "protogen::config" }
  | .invalidConfig path => {
      message := "Configuration error: invalid config file " ++ Json.backquoted path
      code := "protogen::config" }

end ApiProto.Command
