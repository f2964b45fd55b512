/-
  Types written as JSON values.

  A type is an object with the members `primitive`, `subType`, `complex`, `enum` (strings) and
  `isArray` (a truth value), of which any may be missing or null; members of other names do not
  count.  An empty string counts as missing.  The first of `primitive`, `complex` and `enum` that
  is there decides what the type is.
-/
import ApiProto.DataType
import ApiProto.Definition.Place
import ApiProto.Json.Fault
import ApiProto.Json.Printer

namespace ApiProto

/-- What is wrong with a type. -/
inductive TypeFault where
  /-- None of the members that decide what it is. -/
  | undecided
  | unknownPrimitive (name : String)
  /-- A member holds a value of the wrong kind. -/
  | badMember (seen : Json.Found) (expected : Json.Expected)
  deriving DecidableEq, Repr

namespace TypeReader

/-- The fault of a member, if it holds a value of the wrong kind. -/
def memberFault? : String × Json → Option TypeFault
  | (_, .null) => none
  | (name, v) =>
    if ["primitive", "subType", "complex", "enum"].contains name then
      match v with
      | .string _ => none
      | _ => some (.badMember v.found .string)
    else if name = "isArray" then
      match v with
      | .bool _ => none
      | _ => some (.badMember v.found .boolean)
    else none

/-- The text of a member that is a string other than the empty one. -/
def textMember? (members : List (String × Json)) (name : String) : Option String :=
  match members.lookup name with
  | some (.string s) => if s = "" then none else some s
  | _ => none

/-- What the members refer to. -/
def reference (members : List (String × Json)) : Except TypeFault Reference :=
  match textMember? members "primitive" with
  | some name =>
    match Primitive.ofName? name with
    | some kind => .ok (.primitive kind (textMember? members "subType"))
    | none => .error (.unknownPrimitive name)
  | none =>
    match textMember? members "complex" with
    | some name => .ok (.model name)
    | none =>
      match textMember? members "enum" with
      | some name => .ok (.enumeration name)
      | none => .error .undecided

/-- Whether the members say that the type is a list. -/
def isArray (members : List (String × Json)) : Bool :=
  match members.lookup "isArray" with
  | some (.bool b) => b
  | _ => false

/-- The type that a JSON value declares. -/
def read : Json → Except TypeFault DataType
  | .object members =>
    match members.findSome? memberFault? with
    | some fault => .error fault
    | none => do
      let r ← reference members
      .ok ⟨r, isArray members⟩
  | _ => .error .undecided

end TypeReader

/-! ## Errors -/

/-- A type that is not understood: what is wrong, where, and the value that declares it. -/
structure SchemaError where
  fault : TypeFault
  place : Place
  property : Json

namespace SchemaError

/-- The wording of the fault. -/
def faultText : TypeFault → String
  | .undecided => "cannot understand type of property"
  | .unknownPrimitive name => "cannot translate primitive type " ++ Json.backquoted name
  | .badMember seen expected =>
    "malformed type of property (" ++ Json.mismatchText seen expected ++ ")"

/-- The part of the fault that depends on the value: an unknown kind, or what was found. -/
def detail (e : SchemaError) : Option String :=
  match e.fault with
  | .undecided => none
  | .unknownPrimitive name => some name
  | .badMember seen expected => some (Json.mismatchText seen expected)

/-- The message of the error. -/
def message (e : SchemaError) : String := faultText e.fault ++ " " ++ Json.backquoted e.place.path

/-- How to mend the type, which is shown below. -/
def help (e : SchemaError) : String :=
  (match e.fault with
    | .undecided => "declare one of `primitive`, `complex` or `enum` in:\n"
    | .unknownPrimitive _ =>
      "use one of integer, number, string, boolean, file, object, array in:\n"
    | .badMember .. =>
      "`primitive`, `subType`, `complex` and `enum` take strings and `isArray` takes a boolean in:\n")
    ++ Json.pretty e.property

end SchemaError

end ApiProto
