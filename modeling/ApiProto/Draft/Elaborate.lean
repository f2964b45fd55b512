/-
  From drafts to definitions: every type is read, and the first that is not understood is the error.

  Types are looked at in this order: the properties of the models, then, service by service and
  operation by operation, the parameters and the responses.
-/
import ApiProto.Definition.Basic
import ApiProto.Definition.TypeReader
import ApiProto.Draft.Basic

namespace ApiProto.Draft

/-- The type of a place. -/
def typeAt (place : Place) (v : Json) : Except SchemaError DataType :=
  match TypeReader.read v with
  | .ok type => .ok type
  | .error fault => .error ⟨fault, place, v⟩

/-- The properties of a model. -/
def elaborateModel (model : String) (properties : OrderedMap String Json) :
    Except SchemaError Model :=
  properties.traverse fun property v => typeAt (.property model property) v

/-- The parameters of an operation, from the given index on. -/
def elaborateParameters (service operation : String) :
    Nat → List Parameter → Except SchemaError (List ApiProto.Parameter)
  | _, [] => .ok []
  | index, p :: rest => do
    let type ← typeAt (.parameter service operation index) p.type
    let ps ← elaborateParameters service operation (index + 1) rest
    .ok (⟨p.name, type⟩ :: ps)

/-- The body of a response. -/
def elaborateResponse (service operation status : String) :
    Option Json → Except SchemaError (Option DataType)
  | none => .ok none
  | some v => do
    let type ← typeAt (.response service operation status) v
    .ok (some type)

/-- An operation. -/
def elaborateOperation (service name : String) (o : Operation) :
    Except SchemaError ApiProto.Operation := do
  let parameters ← elaborateParameters service name 0 o.parameters
  let responses ← o.responses.traverse (elaborateResponse service name)
  .ok ⟨name, parameters, responses⟩

/-- The operations of a service. -/
def elaborateService (service : String) :
    List (String × Operation) → Except SchemaError Service
  | [] => .ok []
  | (name, o) :: rest => do
    let o ← elaborateOperation service name o
    let os ← elaborateService service rest
    .ok (o :: os)

end ApiProto.Draft

namespace ApiProto

/-- The definition of a draft, or the first type that is not understood. -/
def Draft.elaborate (d : Draft) : Except SchemaError Definition := do
  let models ← d.models.traverse Draft.elaborateModel
  let services ← d.services.traverse fun name operations =>
    Draft.elaborateService name operations.entries
  .ok ⟨services, models, d.enums⟩

end ApiProto
