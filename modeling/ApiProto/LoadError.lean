/-
  Errors of loading a definition or a profile file: faults of the JSON text, types that are not
  understood, and faults of profiles.  Each has a stable code, a message and, often, advice.
-/
import ApiProto.Definition.TypeReader
import ApiProto.Draft.Elaborate
import ApiProto.Draft.Reader
import ApiProto.Profile.File

namespace ApiProto

/-- The codes of errors: `E0xx` for JSON, `E1xx` for types, `E2xx` for profiles. -/
inductive ErrorCode where
  | malformedJson
  | unexpectedStructure
  | missingDiscriminant
  | unknownPrimitive
  | malformedProperty
  | unsupportedMode
  | unknownTransform
  | invalidPackage
  | profileNotFound
  | emptyProfileFile
  deriving DecidableEq, Repr

namespace ErrorCode

/-- The code as it is written. -/
def text : ErrorCode → String
  | .malformedJson => "E001"
  | .unexpectedStructure => "E002"
  | .missingDiscriminant => "E100"
  | .unknownPrimitive => "E101"
  | .malformedProperty => "E102"
  | .unsupportedMode => "E200"
  | .unknownTransform => "E201"
  | .invalidPackage => "E202"
  | .profileNotFound => "E203"
  | .emptyProfileFile => "E204"

/-- What the code means. -/
def description : ErrorCode → String
  | .malformedJson => "malformed JSON"
  | .unexpectedStructure => "unexpected structure"
  | .missingDiscriminant => "missing type discriminant"
  | .unknownPrimitive => "unknown primitive type"
  | .malformedProperty => "malformed property type"
  | .unsupportedMode => "unsupported mode"
  | .unknownTransform => "unknown transform"
  | .invalidPackage => "invalid package name"
  | .profileNotFound => "profile not found"
  | .emptyProfileFile => "empty profile file"

end ErrorCode

/-- The code of a fault of a type. -/
def TypeFault.code : TypeFault → ErrorCode
  | .undecided => .missingDiscriminant
  | .unknownPrimitive _ => .unknownPrimitive
  | .badMember .. => .malformedProperty

/-- The code of an error of a profile. -/
def ProfileError.code : ProfileError → ErrorCode
  | .unsupportedMode .. => .unsupportedMode
  | .unknownTransform .. => .unknownTransform
  | .missingPackage _ | .invalidPackage .. => .invalidPackage
  | .notFound _ => .profileNotFound
  | .noProfiles => .emptyProfileFile

/-- An error of loading a text. -/
inductive LoadError where
  | json (cause : Json.Cause) (position : Text.Position)
  | schema (e : SchemaError)
  | profile (e : ProfileError)

namespace LoadError

/-- The error of a fault in a text. -/
def ofFault (fault : Json.Fault) (source : String) : LoadError :=
  .json fault.cause (fault.position source)

/-- The code of the error. -/
def code : LoadError → ErrorCode
  | .json cause _ => if cause.isShape then .unexpectedStructure else .malformedJson
  | .schema e => e.fault.code
  | .profile e => e.code

/-- The message of the error. -/
def message : LoadError → String
  | .json cause position => "invalid JSON: " ++ cause.textAt position
  | .schema e => e.message
  | .profile e => e.message

/-- How to mend the text. -/
def help : LoadError → Option String
  | .json .. => none
  | .schema e => some e.help
  | .profile e => e.help

/-- The position of a fault of the JSON text. -/
def location : LoadError → Option Text.Position
  | .json _ position => some position
  | .schema _ | .profile _ => none

end LoadError

/-! ## Loading -/

/-- The definition that a JSON text holds. -/
def Definition.load (source : String) : Except LoadError Definition :=
  match Draft.read source with
  | .error fault => .error (.ofFault fault source)
  | .ok draft =>
    match draft.elaborate with
    | .error e => .error (.schema e)
    | .ok d => .ok d

/-- The profiles that a JSON text holds. -/
def ProfileSet.load (source : String) : Except LoadError ProfileSet :=
  match ProfileDraft.readAll source with
  | .error fault => .error (.ofFault fault source)
  | .ok drafts =>
    match ProfileSet.ofDrafts drafts with
    | .error e => .error (.profile e)
    | .ok ps => .ok ps

end ApiProto
