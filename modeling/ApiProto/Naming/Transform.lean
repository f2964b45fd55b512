/-
  Naming transforms: ways to respell a name, and chains of them.
-/
import ApiProto.Text.Words

namespace ApiProto

/-- A way to respell a name. -/
inductive Transform where
  | pascalCase
  | camelCase
  | snakeCase
  | kebabCase
  | upperCase
  | lowerCase
  deriving DecidableEq, Repr

namespace Transform

/-- The name under which a profile lists the transform. -/
def name : Transform → String
  | .pascalCase => "pascal-case"
  | .camelCase => "camel-case"
  | .snakeCase => "snake-case"
  | .kebabCase => "kebab-case"
  | .upperCase => "upper-case"
  | .lowerCase => "lower-case"

/-- All transforms. -/
def all : List Transform := [.pascalCase, .camelCase, .snakeCase, .kebabCase, .upperCase, .lowerCase]

/-- The transform of a name. -/
def ofName? (s : String) : Option Transform := all.find? fun t => t.name == s

theorem ofName?_name (t : Transform) : ofName? t.name = some t := by
  cases t <;> decide

/-- Respells a text. -/
def onText : Transform → List Char → List Char
  | .pascalCase => Text.pascalCase
  | .camelCase => Text.camelCase
  | .snakeCase => Text.snakeCase
  | .kebabCase => Text.kebabCase
  | .upperCase => Text.upperText
  | .lowerCase => Text.lowerText

/-- Respells a name. -/
def apply (t : Transform) (name : String) : String := String.ofList (t.onText name.toList)

/-- Respells a name by each transform of a chain, from left to right. -/
def applyAll (chain : List Transform) (name : String) : String :=
  chain.foldl (fun s t => t.apply s) name

theorem applyAll_append (chain chain' : List Transform) :
    applyAll (chain ++ chain') = applyAll chain' ∘ applyAll chain := by
  funext name
  exact List.foldl_append

end Transform

/-- The chains for the five kinds of names. -/
structure Transforms where
  service : List Transform
  operation : List Transform
  parameter : List Transform
  model : List Transform
  property : List Transform
  deriving DecidableEq, Repr

/-- The chains that leave every name as it is. -/
def Transforms.none : Transforms := ⟨[], [], [], [], []⟩

/-- Each chain with the other chain for its kind behind it. -/
def Transforms.andThen (t u : Transforms) : Transforms where
  service := t.service ++ u.service
  operation := t.operation ++ u.operation
  parameter := t.parameter ++ u.parameter
  model := t.model ++ u.model
  property := t.property ++ u.property

end ApiProto
