/-
  Types of properties, parameters and responses.

  A type is a primitive kind with an optional refinement, a reference to a model or a reference to
  an enumeration, and any of them may stand for a list of such values.
-/

namespace ApiProto

/-- The kinds of primitive values. -/
inductive Primitive where
  | integer
  | number
  | string
  | boolean
  | file
  | object
  | array
  deriving DecidableEq, Repr

namespace Primitive

/-- The name under which a definition declares the kind. -/
def name : Primitive → String
  | .integer => "integer"
  | .number => "number"
  | .string => "string"
  | .boolean => "boolean"
  | .file => "file"
  | .object => "object"
  | .array => "array"

/-- All kinds. -/
def all : List Primitive := [.integer, .number, .string, .boolean, .file, .object, .array]

/-- The kind of a name. -/
def ofName? (s : String) : Option Primitive := all.find? fun k => k.name == s

theorem ofName?_name (k : Primitive) : ofName? k.name = some k := by
  cases k <;> decide

end Primitive

/-- What a single value of a type is. -/
inductive Reference where
  /-- A primitive kind and its refinement, such as `int64` or `date-time`. -/
  | primitive (kind : Primitive) (subType : Option String)
  | model (name : String)
  | enumeration (name : String)
  deriving DecidableEq, Repr

/-- A type: what it refers to, and whether it is a list of it. -/
structure DataType where
  reference : Reference
  isArray : Bool := false
  deriving DecidableEq, Repr

namespace DataType

/-- Whether the type is of a primitive kind. -/
def isPrimitive (t : DataType) : Bool :=
  match t.reference with
  | .primitive .. => true
  | _ => false

/-- The name of the model that the type refers to. -/
def model? (t : DataType) : Option String :=
  match t.reference with
  | .model name => some name
  | _ => none

/-- Renames the model that the type refers to; other types stay as they are. -/
def mapModel (f : String → String) (t : DataType) : DataType :=
  match t.reference with
  | .model name => { t with reference := .model (f name) }
  | _ => t

theorem mapModel_id (t : DataType) : t.mapModel id = t := by
  obtain ⟨reference, isArray⟩ := t
  cases reference <;> rfl

theorem mapModel_mapModel (f g : String → String) (t : DataType) :
    (t.mapModel f).mapModel g = t.mapModel (g ∘ f) := by
  obtain ⟨reference, isArray⟩ := t
  cases reference <;> rfl

end DataType

end ApiProto
