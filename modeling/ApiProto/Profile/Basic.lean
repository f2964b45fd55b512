/-
  Profiles: the mode of an output, its package and the naming transforms that lead to it.
-/
import ApiProto.Naming.Transform

namespace ApiProto

/-- The kind of output. -/
inductive Mode where
  | protobuf
  deriving DecidableEq, Repr

namespace Mode

/-- The name under which a profile declares the mode. -/
def name : Mode → String
  | .protobuf => "protobuf"

/-- The mode of a name. -/
def ofName? (s : String) : Option Mode := if s = "protobuf" then some .protobuf else none

/-- The chains of a profile that lists none. -/
def defaultTransforms : Mode → Transforms
  | .protobuf => {
      service := [.pascalCase]
      operation := [.camelCase]
      parameter := [.camelCase]
      model := [.pascalCase]
      property := [.camelCase] }

end Mode

/-- How a definition is rendered. -/
structure Profile where
  mode : Mode
  package : String
  transforms : Transforms
  deriving DecidableEq, Repr

/-- The profile of a package, with the defaults of its mode. -/
def Profile.ofPackage (package : String) : Profile :=
  ⟨.protobuf, package, Mode.protobuf.defaultTransforms⟩

end ApiProto
