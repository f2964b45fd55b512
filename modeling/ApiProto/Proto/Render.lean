/-
  The text of a definition.

  After the header come the services, the enumerations, the models and the wrapper messages, each
  kind set apart by a blank line from what comes before.
-/
import ApiProto.Naming.Rename
import ApiProto.Profile.Error
import ApiProto.Proto.Order
import ApiProto.Proto.Signature
import ApiProto.Proto.TypeName
import ApiProto.Proto.Wrapper
import ApiProto.Proto.Writer

namespace ApiProto.Proto

section Emitters

open BlockSink

variable {W : Type} [BlockSink W]

/-- Writes the service blocks. -/
def writeServices (w : W) (services : List (String × Service)) : W :=
  each w services fun w i (name, operations) =>
    let w := openBlock (blank w (0 < i)) ("service " ++ name)
    closeBlock (each w operations fun w j o => line (blank w (0 < j)) (rpcLine o))

/-- Writes the enumeration blocks; values are numbered from zero. -/
def writeEnums (w : W) (enums : List (String × Enumeration)) : W :=
  each w enums fun w i (name, values) =>
    let w := openBlock (blank w (0 < i)) ("enum " ++ name)
    closeBlock (each w values fun w j value => line w (value ++ " = " ++ toString j ++ ";"))

/-- Writes the message blocks of models; fields are numbered from one. -/
def writeModels (w : W) (models : List (String × Model)) : W :=
  each w models fun w i (name, model) =>
    let w := openBlock (blank w (0 < i)) ("message " ++ name)
    closeBlock (each w model.entries fun w j (property, type) =>
      line w (typeName type ++ " " ++ property ++ " = " ++ toString (j + 1) ++ ";"))

/-- Writes a wrapper message.  Its value has the kind as it was declared. -/
def writeWrapper (w : W) (m : Wrapper) : W :=
  closeBlock (line (openBlock w ("message " ++ m.name)) (m.kind.name ++ " value = 1;"))

/-- Writes the groups of wrapper messages, which blank lines set apart. -/
def writeWrappers (w : W) (groups : List (List Wrapper)) : W :=
  each w groups fun w i group => each (blank w (0 < i)) group fun w _ m => writeWrapper w m

/-- Writes the file of a definition in a package. -/
def writeFile (w : W) (d : Definition) (package : String) (deduplicate : Bool) : W :=
  let services := sortedServices d
  let enums := sortedEnums d
  let models := sortedModels d
  let wrappers := wrapperGroups services deduplicate
  let hasTypes := !enums.isEmpty || !models.isEmpty
  let w := line w "syntax = \"proto3\";"
  let w := blank w true
  let w := line w ("package " ++ package ++ ";")
  let w := blank w true
  let w := writeServices w services
  let w := blank w (!services.isEmpty && hasTypes)
  let w := writeEnums w enums
  let w := blank w (!enums.isEmpty && !models.isEmpty)
  let w := writeModels w models
  let w := blank w hasTypes
  let w := blank w (!hasTypes && !wrappers.isEmpty)
  writeWrappers w wrappers

end Emitters

/-- The text of a definition in a package. -/
def render (d : Definition) (package : String) (settings : Settings) : String :=
  (writeFile (Writer.start settings.indentWidth) d package settings.deduplicate).text

end ApiProto.Proto

namespace ApiProto

/-- The name under which a profile is reported while a definition is rendered. -/
def activeProfile : String := "active"

/-- Renames a definition as a profile says and gives its text. -/
def Definition.render (d : Definition) (profile : Profile) (settings : Settings) :
    Except ProfileError String := do
  profile.check activeProfile
  .ok (Proto.render (d.rename profile.transforms) profile.package settings)

end ApiProto
