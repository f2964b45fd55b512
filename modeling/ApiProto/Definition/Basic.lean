/-
  Definitions of an API: services with their operations, models and enumerations.

  Everything keeps the order in which it was declared.  Names are unique among the services, the
  models, the enumerations, the properties of a model and the status keys of an operation; an
  operation or a parameter may come twice.
-/
import ApiProto.DataType
import ApiProto.OrderedMap
import ApiProto.Status

namespace ApiProto

/-- A parameter of an operation. -/
structure Parameter where
  name : String
  type : DataType
  deriving DecidableEq, Repr

/-- An operation: its parameters, and for each status the type of the body, if there is one. -/
structure Operation where
  name : String
  parameters : List Parameter
  responses : OrderedMap String (Option DataType)
  deriving DecidableEq

/-- The operations of a service. -/
abbrev Service := List Operation

/-- The properties of a model and their types. -/
abbrev Model := OrderedMap String DataType

/-- The values of an enumeration. -/
abbrev Enumeration := List String

/-- An API. -/
structure Definition where
  services : OrderedMap String Service
  models : OrderedMap String Model
  enums : OrderedMap String Enumeration
  deriving DecidableEq

/-! ## Building up -/

namespace Operation

/-- An operation without parameters and responses. -/
def named (name : String) : Operation := ⟨name, [], OrderedMap.empty⟩

/-- Appends a parameter. -/
def withParameter (o : Operation) (p : Parameter) : Operation :=
  { o with parameters := o.parameters ++ [p] }

/-- Sets the response of a status. -/
def withResponse (o : Operation) (status : String) (body : Option DataType) : Operation :=
  { o with responses := o.responses.insert status body }

/-- The types of the successful responses that have a body, in order. -/
def successTypes (o : Operation) : List DataType :=
  o.responses.entries.filterMap fun (status, body) => if Status.isSuccess status then body else none

end Operation

/-- Appends an operation to a service. -/
def Service.withOperation (s : Service) (o : Operation) : Service := s ++ [o]

/-- Sets the type of a property. -/
def Model.withProperty (m : Model) (name : String) (type : DataType) : Model := m.insert name type

namespace Definition

/-- The definition that declares nothing. -/
def empty : Definition := ⟨OrderedMap.empty, OrderedMap.empty, OrderedMap.empty⟩

/-- Sets a service. -/
def withService (d : Definition) (name : String) (s : Service) : Definition :=
  { d with services := d.services.insert name s }

/-- Sets a model. -/
def withModel (d : Definition) (name : String) (m : Model) : Definition :=
  { d with models := d.models.insert name m }

/-- Sets an enumeration. -/
def withEnum (d : Definition) (name : String) (e : Enumeration) : Definition :=
  { d with enums := d.enums.insert name e }

end Definition

end ApiProto
