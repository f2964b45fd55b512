/-
  Profile files: JSON objects from profile names to profiles.

  A profile has the members `mode`, `options` (with `package`) and `transforms` (with a list for
  each kind of name); any of them may be missing, and all but `options` and `transforms` may be
  null.  A missing mode is the default one, a missing list the default of the mode, and a missing
  package the empty one, which is left for the caller to fill in.
-/
import ApiProto.Draft.Reader
import ApiProto.Profile.Error

namespace ApiProto

/-- The lists of transform names that a profile declares. -/
structure TransformNames where
  service : Option (List String) := none
  operation : Option (List String) := none
  parameter : Option (List String) := none
  model : Option (List String) := none
  property : Option (List String) := none
  deriving DecidableEq, Repr

/-- A profile as it is declared. -/
structure ProfileDraft where
  mode : Option String := none
  package : Option String := none
  transforms : TransformNames := {}
  deriving DecidableEq, Repr

namespace ProfileDraft

open ApiProto.Json (Decoder Cursor Fault MemberRule)
open ApiProto.Draft (once)

/-! ## Reading -/

/-- Reads a list of strings, or null. -/
def names : Decoder (Option (List String)) := Decoder.optional (Decoder.list Decoder.text)

/-- The lists that have been read. -/
structure NamesParts where
  service : Option (Option (List String)) := none
  operation : Option (Option (List String)) := none
  parameter : Option (Option (List String)) := none
  model : Option (Option (List String)) := none
  property : Option (Option (List String)) := none

/-- The rule for the members of `transforms`. -/
def NamesParts.rule (room : Nat) (p : NamesParts) (member : String) : MemberRule NamesParts :=
  if member = "serviceName" then once p.service names (fun v => { p with service := some v }) room
  else if member = "operationName" then
    once p.operation names (fun v => { p with operation := some v }) room
  else if member = "parameterName" then
    once p.parameter names (fun v => { p with parameter := some v }) room
  else if member = "modelName" then once p.model names (fun v => { p with model := some v }) room
  else if member = "propertyName" then
    once p.property names (fun v => { p with property := some v }) room
  else .skip

/-- Missing lists are like null. -/
def NamesParts.finish (p : NamesParts) : Except Json.Cause TransformNames :=
  .ok ⟨p.service.getD none, p.operation.getD none, p.parameter.getD none, p.model.getD none,
    p.property.getD none⟩

/-- Reads `transforms`. -/
def transformNames : Decoder TransformNames :=
  Decoder.object .object {} NamesParts.rule NamesParts.finish

/-- The rule for the members of `options`, whose state is the package if it has been read. -/
def optionsRule (room : Nat) (p : Option (Option String)) (member : String) :
    MemberRule (Option (Option String)) :=
  if member = "package" then once p (Decoder.optional Decoder.text) some room else .skip

/-- Reads `options`. -/
def options : Decoder (Option String) :=
  Decoder.object .object none optionsRule fun p => .ok (p.getD none)

/-- The members of a profile that have been read. -/
structure Parts where
  mode : Option (Option String) := none
  package : Option (Option String) := none
  transforms : Option TransformNames := none

/-- The rule for the members of a profile. -/
def Parts.rule (room : Nat) (p : Parts) (member : String) : MemberRule Parts :=
  if member = "mode" then
    once p.mode (Decoder.optional Decoder.text) (fun v => { p with mode := some v }) room
  else if member = "options" then
    once p.package options (fun v => { p with package := some v }) room
  else if member = "transforms" then
    once p.transforms transformNames (fun v => { p with transforms := some v }) room
  else .skip

/-- Missing members are like null. -/
def Parts.finish (p : Parts) : Except Json.Cause ProfileDraft :=
  .ok ⟨p.mode.getD none, p.package.getD none, p.transforms.getD {}⟩

/-- Reads a profile. -/
def profile : Decoder ProfileDraft := Decoder.object .object {} Parts.rule Parts.finish

/-- The profiles that a text holds. -/
def readAll (source : String) : Except Fault (OrderedMap String ProfileDraft) :=
  Json.decode (Decoder.dict .object profile) source

/-! ## Resolving -/

/-- The transforms of a list of names; the first unknown one is the error. -/
def resolveNames (name member : String) : List String → Except ProfileError (List Transform)
  | [] => .ok []
  | s :: rest =>
    match Transform.ofName? s with
    | none => .error (.unknownTransform name member s)
    | some t => do
      let ts ← resolveNames name member rest
      .ok (t :: ts)

/-- The chain for a kind of name: the listed one or the default. -/
def resolveChain (name member : String) (names : Option (List String)) (default : List Transform) :
    Except ProfileError (List Transform) :=
  match names with
  | none => .ok default
  | some names => resolveNames name member names

/-- The chains for all kinds of names. -/
def resolveTransforms (name : String) (t : TransformNames) (default : Transforms) :
    Except ProfileError Transforms := do
  let service ← resolveChain name "serviceName" t.service default.service
  let operation ← resolveChain name "operationName" t.operation default.operation
  let parameter ← resolveChain name "parameterName" t.parameter default.parameter
  let model ← resolveChain name "modelName" t.model default.model
  let property ← resolveChain name "propertyName" t.property default.property
  .ok ⟨service, operation, parameter, model, property⟩

/-- The declared mode, or the default one. -/
def resolveMode (name : String) (mode : Option String) : Except ProfileError Mode :=
  match mode with
  | none => .ok .protobuf
  | some s =>
    match Mode.ofName? s with
    | some m => .ok m
    | none => .error (.unsupportedMode name s)

/-- The profile of the given name.  A package is checked if there is one. -/
def resolve (name : String) (d : ProfileDraft) : Except ProfileError Profile := do
  let mode ← resolveMode name d.mode
  let transforms ← resolveTransforms name d.transforms mode.defaultTransforms
  let p : Profile := ⟨mode, d.package.getD "", transforms⟩
  if p.package = "" then .ok p
  else do
    p.check name
    .ok p

end ProfileDraft

/-- The profiles of a file, by name, in the order of their declaration. -/
abbrev ProfileSet := OrderedMap String Profile

namespace ProfileSet

/-- The profiles of a file; the first fault counts. -/
def ofDrafts (drafts : OrderedMap String ProfileDraft) : Except ProfileError ProfileSet :=
  if drafts.isEmpty then .error .noProfiles else drafts.traverse ProfileDraft.resolve

/-- The profile of a name, or the first one if no name is given. -/
def select (ps : ProfileSet) : Option String → Except ProfileError Profile
  | some name =>
    match ps.get? name with
    | some p => .ok p
    | none => .error (.notFound name)
  | none =>
    match ps.values with
    | p :: _ => .ok p
    | [] => .error .noProfiles

end ProfileSet

end ApiProto
