/-
  Reading drafts from JSON texts.

  A definition is an object with the members `services`, `models` and `enums`; an operation one
  with `parameters` and `responses`; a parameter one with `name` and `dataType`, of which `name`
  must be there; a response one with `dataType`.  Other members are passed over.  Each of these
  may come once.  The maps in between take members of any name; where a name comes twice the last
  value stands in the first place.
-/
import ApiProto.Draft.Basic
import ApiProto.Json.Reader

namespace ApiProto.Draft

open ApiProto.Json (Decoder Cursor Fault MemberRule)

/-- The rule for a member that may come once: it is read into a part of the state that `seen` says
is empty. -/
def once {σ α : Type} (seen : Option α) (decoder : Decoder α) (put : α → σ) (room : Nat) :
    MemberRule σ :=
  if seen.isSome then .repeated
  else .take fun c => do
    let (v, c) ← decoder room c
    .ok (put v, c)

/-! ## Parameters and responses -/

/-- The members of a parameter that have been read. -/
structure ParameterParts where
  name : Option String := none
  type : Option Json := none

/-- The rule for the members of a parameter. -/
def ParameterParts.rule (room : Nat) (p : ParameterParts) (member : String) :
    MemberRule ParameterParts :=
  if member = "name" then once p.name Decoder.text (fun v => { p with name := some v }) room
  else if member = "dataType" then
    once p.type Decoder.value (fun v => { p with type := some v }) room
  else .skip

/-- A parameter has a name. -/
def ParameterParts.finish (p : ParameterParts) : Except Json.Cause Parameter :=
  match p.name with
  | some name => .ok ⟨name, p.type.getD .null⟩
  | none => .error (.missingMember "name")

/-- Reads a parameter. -/
def parameter : Decoder Parameter :=
  Decoder.object .object {} ParameterParts.rule ParameterParts.finish

/-- The rule for the members of a response, whose state is the type if it has been read. -/
def responseRule (room : Nat) (p : Option (Option Json)) (member : String) :
    MemberRule (Option (Option Json)) :=
  if member = "dataType" then once p (Decoder.optional Decoder.value) some room else .skip

/-- Reads a response. -/
def response : Decoder (Option Json) :=
  Decoder.object .object none responseRule fun p => .ok (p.getD none)

/-! ## Operations and definitions -/

/-- The members of an operation that have been read. -/
structure OperationParts where
  parameters : Option (List Parameter) := none
  responses : Option (OrderedMap String (Option Json)) := none

/-- The rule for the members of an operation. -/
def OperationParts.rule (room : Nat) (p : OperationParts) (member : String) :
    MemberRule OperationParts :=
  if member = "parameters" then
    once p.parameters (Decoder.list parameter) (fun v => { p with parameters := some v }) room
  else if member = "responses" then
    once p.responses (Decoder.dict .map response) (fun v => { p with responses := some v }) room
  else .skip

/-- Missing members are empty. -/
def OperationParts.finish (p : OperationParts) : Except Json.Cause Operation :=
  .ok ⟨p.parameters.getD [], p.responses.getD OrderedMap.empty⟩

/-- Reads an operation. -/
def operation : Decoder Operation :=
  Decoder.object .object {} OperationParts.rule OperationParts.finish

/-- The members of a definition that have been read. -/
structure Parts where
  services : Option (OrderedMap String (OrderedMap String Operation)) := none
  models : Option (OrderedMap String (OrderedMap String Json)) := none
  enums : Option (OrderedMap String (List String)) := none

/-- The rule for the members of a definition. -/
def Parts.rule (room : Nat) (p : Parts) (member : String) : MemberRule Parts :=
  if member = "services" then
    once p.services (Decoder.dict .map (Decoder.dict .map operation))
      (fun v => { p with services := some v }) room
  else if member = "models" then
    once p.models (Decoder.dict .map (Decoder.dict .map Decoder.value))
      (fun v => { p with models := some v }) room
  else if member = "enums" then
    once p.enums (Decoder.dict .map (Decoder.list Decoder.text))
      (fun v => { p with enums := some v }) room
  else .skip

/-- Missing members are empty. -/
def Parts.finish (p : Parts) : Except Json.Cause Draft :=
  .ok ⟨p.services.getD OrderedMap.empty, p.models.getD OrderedMap.empty,
    p.enums.getD OrderedMap.empty⟩

/-- Reads a definition. -/
def draft : Decoder Draft := Decoder.object .object {} Parts.rule Parts.finish

/-- The draft that a text holds. -/
def read (source : String) : Except Fault Draft := Json.decode draft source

end ApiProto.Draft
