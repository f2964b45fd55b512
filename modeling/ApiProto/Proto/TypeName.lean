/-
  Names of types in the output.
-/
import ApiProto.DataType

namespace ApiProto.Proto

/-- The name of a primitive kind with its refinement.  A number takes the refinement as its name;
integers and strings know a few, and the other kinds none. -/
def primitiveName : Primitive → Option String → String
  | .integer, subType => if subType = some "int64" then "int64" else "int32"
  | .number, subType => subType.getD "double"
  | .string, subType =>
    if subType = some "date-time" ∨ subType = some "date" then "DateTime" else "string"
  | .boolean, _ => "bool"
  | .file, _ => "object"
  | .object, _ => "object"
  | .array, _ => "object[]"

/-- The name of what a type refers to. -/
def referenceName : Reference → String
  | .primitive kind subType => primitiveName kind subType
  | .model name => name
  | .enumeration name => name

/-- The name of a type, marked if it is a list. -/
def typeName (t : DataType) : String :=
  if t.isArray then "repeated " ++ referenceName t.reference else referenceName t.reference

end ApiProto.Proto
