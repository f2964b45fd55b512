/-
  The shape of a definition as a JSON value, and the types that it declares.

  A definition is an object.  Its members are

    services  an object of objects of operations
    models    an object of objects
    enums     an object of arrays of strings

  An operation is an object with the members `parameters`, an array of parameters, and `responses`,
  an object of responses.  A parameter is an object with the member `name`, a string; a response is
  an object.  A member may be missing, but for the name of a parameter, and other members do not
  count.  Types may be values of any kind here.
-/
import ApiProto.Json.Value

namespace ApiProto.Json

/-! ## Shape -/

/-- Whether a value is a string. -/
def isText : Json → Bool
  | .string _ => true
  | _ => false

/-- Whether a value is an array with items of a kind. -/
def isArrayOf (kind : Json → Bool) : Json → Bool
  | .array items => items.all kind
  | _ => false

/-- Whether a value is an object whose members have values of a kind. -/
def isObjectOf (kind : Json → Bool) : Json → Bool
  | .object members => members.all fun m => kind m.2
  | _ => false

/-- Whether a value is an object. -/
def isObject : Json → Bool := isObjectOf fun _ => true

/-- Whether the member of a name is missing or of a kind. -/
def memberIs (kind : Json → Bool) (name : String) (v : Json) : Bool := (v.member? name).all kind

/-- Whether a value is a parameter. -/
def isParameter (v : Json) : Bool := v.isObject && (v.member? "name").any isText

/-- Whether a value is an operation. -/
def isOperation (v : Json) : Bool :=
  v.isObject && v.memberIs (isArrayOf isParameter) "parameters"
    && v.memberIs (isObjectOf isObject) "responses"

/-- Whether a value is a definition. -/
def isDefinition (v : Json) : Bool :=
  v.isObject && v.memberIs (isObjectOf (isObjectOf isOperation)) "services"
    && v.memberIs (isObjectOf isObject) "models"
    && v.memberIs (isObjectOf (isArrayOf isText)) "enums"

/-! ## Declared types -/

/-- The member of a name; a missing one counts as null. -/
def memberOrNull (v : Json) (name : String) : Json := (v.member? name).getD .null

/-- The items of an array. -/
def items : Json → List Json
  | .array vs => vs
  | _ => []

/-- The values of an object's members. -/
def values : Json → List Json
  | .object members => members.map Prod.snd
  | _ => []

/-- The type of a parameter; a missing one counts as null. -/
def typeOfParameter (p : Json) : Json := p.memberOrNull "dataType"

/-- The type of a response, if it has one other than null. -/
def typeOfResponse? (r : Json) : Option Json :=
  match r.memberOrNull "dataType" with
  | .null => none
  | type => some type

/-- The types of an operation: those of its parameters, then those of its responses. -/
def typesOfOperation (o : Json) : List Json :=
  (o.memberOrNull "parameters").items.map typeOfParameter
    ++ (o.memberOrNull "responses").values.filterMap typeOfResponse?

/-- The types of a definition: those of the models' properties and those of the operations. -/
def declaredTypes (v : Json) : List Json :=
  (v.memberOrNull "models").values.flatMap values
    ++ (v.memberOrNull "services").values.flatMap fun service =>
      service.values.flatMap typesOfOperation

end ApiProto.Json
