/-
  What of an operation is shown in a file.

  A file shows the name of an operation, the model that its only parameter refers to, and of its
  successful bodies the first and the primitive ones behind it, without refinements and without
  whether they are lists.  Whatever else two definitions say about their operations, and whatever
  chain there is for parameters, their texts are the same: what an operation brings into a file
  (`share`) comes from what is shown of it, before and after renaming.
-/
import ApiProto.Proofs.Layout
import ApiProto.Proofs.Naming.Renamed
import ApiProto.Proofs.Pointwise
import ApiProto.Proofs.Wrappers

namespace ApiProto

open Proto

/-! ## What is shown -/

namespace Reference

/-- The reference without a refinement. -/
def plain : Reference → Reference
  | .primitive kind _ => .primitive kind none
  | .model name => .model name
  | .enumeration name => .enumeration name

/-- The kind of a primitive. -/
def kind? : Reference → Option Primitive
  | .primitive kind _ => some kind
  | _ => none

/-- Renames the model that is referred to. -/
def mapModel (f : String → String) : Reference → Reference
  | .model name => .model (f name)
  | r => r

end Reference

namespace Operation

/-- The model that the only parameter refers to. -/
def soleModel? (o : Operation) : Option String :=
  match o.parameters with
  | [p] => p.type.model?
  | _ => none

/-- The first of given bodies, and the primitive ones behind it. -/
def firstAndPrimitive : List Reference → List Reference
  | [] => []
  | first :: rest => first :: rest.filter fun r => r.kind?.isSome

/-- What is shown of the successful responses with a body. -/
def shownBodies (o : Operation) : List Reference :=
  firstAndPrimitive (o.successTypes.map fun type => type.reference.plain)

/-- The same is shown of two operations. -/
structure ShownAlike (o o' : Operation) : Prop where
  name : o'.name = o.name
  parameter : o'.soleModel? = o.soleModel?
  bodies : o'.shownBodies = o.shownBodies

/-- What an operation brings into a file: its call, and its wrapper messages. -/
def share (deduplicate : Bool) (o : Operation) : Rpc × List Wrapper :=
  (Rpc.ofOperation o, operationWrappers deduplicate o)

end Operation

/-- Two definitions have the same models, enumerations and services, and the same is shown of their
operations. -/
structure Definition.ShownAlike (d d' : Definition) : Prop where
  models : d'.models = d.models
  enums : d'.enums = d.enums
  services : List.Forall₂ (fun s s' => s'.1 = s.1 ∧ List.Forall₂ Operation.ShownAlike s.2 s'.2)
    d.services.entries d'.services.entries

/-- Two profiles have the same package, and the same chains but for parameters. -/
structure Profile.SameButParameters (p p' : Profile) : Prop where
  package : p'.package = p.package
  service : p'.transforms.service = p.transforms.service
  operation : p'.transforms.operation = p.transforms.operation
  model : p'.transforms.model = p.transforms.model
  property : p'.transforms.property = p.transforms.property

/-! ## Shares of operations -/

namespace Operation

variable {o o' : Operation}

theorem requestType_eq (o : Operation) :
    requestType o = o.soleModel?.getD (o.name ++ "Request") := by
  obtain ⟨name, parameters, responses⟩ := o
  match parameters with
  | [] => rfl
  | [_] => rfl
  | _ :: _ :: _ => rfl

theorem responseType_plain (name : String) (type : DataType) :
    responseType name ⟨type.reference.plain, false⟩ = responseType name type := by
  obtain ⟨reference, isArray⟩ := type
  cases reference <;> rfl

theorem head?_firstAndPrimitive (bodies : List Reference) :
    (firstAndPrimitive bodies).head? = bodies.head? := by
  cases bodies <;> rfl

theorem returnType_eq (o : Operation) :
    returnType o = o.shownBodies.head?.map fun body => responseType o.name ⟨body, false⟩ := by
  rw [shownBodies, head?_firstAndPrimitive]
  unfold returnType
  cases o.successTypes with
  | nil => rfl
  | cons type rest =>
      rw [List.map_cons, List.head?_cons, Option.map_some, responseType_plain]

/-- The bodies that are left out have no kind. -/
theorem filterMap_kind?_firstAndPrimitive (bodies : List Reference) :
    (firstAndPrimitive bodies).filterMap Reference.kind? = bodies.filterMap Reference.kind? := by
  cases bodies with
  | nil => rfl
  | cons first rest =>
      have hrest : (rest.filter fun r => r.kind?.isSome).filterMap Reference.kind?
          = rest.filterMap Reference.kind? := by
        rw [List.filterMap_filter]
        refine List.filterMap_congr fun r _ => ?_
        cases r <;> rfl
      rw [firstAndPrimitive, List.filterMap_cons, List.filterMap_cons, hrest]

/-- The kinds of the wrapper messages are those of the bodies that are shown. -/
theorem filterMap_wrappedKind? (o : Operation) :
    o.responses.entries.filterMap wrappedKind? = o.shownBodies.filterMap Reference.kind? := by
  rw [shownBodies, filterMap_kind?_firstAndPrimitive, successTypes, List.map_filterMap,
    List.filterMap_filterMap]
  refine List.filterMap_congr fun r _ => ?_
  obtain ⟨status, body⟩ := r
  rcases body with _ | ⟨reference, isArray⟩
  · by_cases hs : Status.isSuccess status <;> simp [wrappedKind?, hs]
  · cases reference <;> by_cases hs : Status.isSuccess status <;>
      simp [wrappedKind?, hs, Reference.plain, Reference.kind?]

/-- What an operation brings into a file comes from what is shown of it. -/
theorem ShownAlike.share_eq (h : ShownAlike o o') (deduplicate : Bool) :
    o'.share deduplicate = o.share deduplicate := by
  have hrpc : Rpc.ofOperation o' = Rpc.ofOperation o := by
    rw [Rpc.ofOperation, Rpc.ofOperation, requestType_eq, requestType_eq, returnType_eq,
      returnType_eq, h.name, h.parameter, h.bodies]
  have hwrappers : operationWrappers deduplicate o' = operationWrappers deduplicate o := by
    rw [operationWrappers, operationWrappers, filterMap_wrappedKind?, filterMap_wrappedKind?,
      h.name, h.bodies]
  rw [share, share, hrpc, hwrappers]

/-! ## Renamed operations -/

section Renaming

variable (t : Transforms)

theorem plain_onType (type : DataType) : (t.onType type).reference.plain
    = type.reference.plain.mapModel (Transform.applyAll t.model) := by
  obtain ⟨reference, isArray⟩ := type
  cases reference <;> rfl

theorem soleModel?_onOperation (o : Operation) :
    (t.onOperation o).soleModel? = o.soleModel?.map (Transform.applyAll t.model) := by
  obtain ⟨name, parameters, responses⟩ := o
  match parameters with
  | [] => rfl
  | [p] => exact (renamedType_onType t p.type).model?_eq
  | _ :: _ :: _ => rfl

theorem successTypes_onOperation (o : Operation) :
    (t.onOperation o).successTypes = o.successTypes.map t.onType := by
  show ((o.responses.entries.map fun r => (r.1, r.2.map t.onType)).filterMap fun r =>
    if Status.isSuccess r.1 then r.2 else none) = _
  rw [successTypes, List.filterMap_map, List.map_filterMap]
  refine List.filterMap_congr fun r _ => ?_
  by_cases hs : Status.isSuccess r.1 <;> simp [hs]

theorem firstAndPrimitive_map {f : Reference → Reference} (hf : ∀ r, (f r).kind? = r.kind?)
    (bodies : List Reference) :
    firstAndPrimitive (bodies.map f) = (firstAndPrimitive bodies).map f := by
  cases bodies with
  | nil => rfl
  | cons first rest =>
      rw [List.map_cons, firstAndPrimitive, firstAndPrimitive, List.map_cons, List.filter_map]
      simp only [Function.comp_def, hf]

theorem kind?_mapModel (f : String → String) (r : Reference) : (r.mapModel f).kind? = r.kind? := by
  cases r <;> rfl

theorem shownBodies_onOperation (o : Operation) : (t.onOperation o).shownBodies
    = o.shownBodies.map (Reference.mapModel (Transform.applyAll t.model)) := by
  rw [shownBodies, shownBodies, ← firstAndPrimitive_map (kind?_mapModel _),
    successTypes_onOperation, List.map_map, List.map_map]
  congr 1
  exact List.map_congr_left fun type _ => plain_onType t type

/-- The same is shown of two operations under chains that differ for parameters only. -/
theorem ShownAlike.onOperation (h : ShownAlike o o') {t t' : Transforms}
    (hoperation : t'.operation = t.operation) (hmodel : t'.model = t.model) :
    ShownAlike (t.onOperation o) (t'.onOperation o') where
  name := by
    show Transform.applyAll t'.operation o'.name = Transform.applyAll t.operation o.name
    rw [hoperation, h.name]
  parameter := by
    rw [soleModel?_onOperation, soleModel?_onOperation, hmodel, h.parameter]
  bodies := by
    rw [shownBodies_onOperation, shownBodies_onOperation, hmodel, h.bodies]

end Renaming

end Operation

/-! ## Shares of services -/

namespace Proto

/-- What the operations of each service bring into a file, in the order of the services in it. -/
def shares (d : Definition) (deduplicate : Bool) : List (String × List (Rpc × List Wrapper)) :=
  (sortedServices d).map fun s => (s.1, s.2.map (Operation.share deduplicate))

/-- Of the services a file declares only what their operations bring into it. -/
theorem ofDefinition_eq_of_shares {d d' : Definition} {deduplicate : Bool}
    (hmodels : d'.models = d.models) (henums : d'.enums = d.enums)
    (hshares : shares d' deduplicate = shares d deduplicate) (package : String) :
    Document.ofDefinition d' package deduplicate = Document.ofDefinition d package deduplicate := by
  have hdocument : ∀ d : Definition, Document.ofDefinition d package deduplicate =
      { package := package
        services := (shares d deduplicate).map fun s => (s.1, s.2.map Prod.fst)
        enums := (sortedEnums d).map fun e => (e.1, e.2.zipIdx)
        messages := (sortedModels d).map fun m => (m.1, fieldsOf m.2)
        wrappers := ((shares d deduplicate).map fun s => s.2.flatMap Prod.snd).filter
          (!·.isEmpty) } := by
    intro d
    simp only [shares, List.map_map, Function.comp_def, List.flatMap_map]
    rfl
  rw [hdocument d', hdocument d, hshares, sortedEnums, sortedEnums, henums, sortedModels,
    sortedModels, hmodels]

/-- The order of the services is that of their names, whatever their operations are. -/
theorem shares_eq_mergeSort (d : Definition) (deduplicate : Bool) :
    shares d deduplicate
      = (d.services.mapValues fun _ s => s.map (Operation.share deduplicate)).entries.mergeSort
        fun a b => decide (a.1 ≤ b.1) :=
  List.map_mergeSort fun _ _ _ _ => rfl

end Proto

/-- The shares of a renamed definition are inserted under the new names of its services. -/
theorem Definition.mapValues_services_rename (d : Definition) (t : Transforms) (deduplicate : Bool) :
    ((d.rename t).services.mapValues fun _ s => s.map (Operation.share deduplicate))
      = OrderedMap.ofList (d.services.entries.map fun s => (Transform.applyAll t.service s.1,
        s.2.map fun o => (t.onOperation o).share deduplicate)) := by
  show (OrderedMap.ofList _).mapValues _ = _
  rw [OrderedMap.mapValues_ofList, List.map_map]
  simp only [Function.comp_def, List.map_map]

/-! ## Texts -/

theorem Definition.ShownAlike.shares_rename {d d' : Definition} (h : d.ShownAlike d')
    {p p' : Profile} (hp : p.SameButParameters p') (deduplicate : Bool) :
    shares (d'.rename p'.transforms) deduplicate = shares (d.rename p.transforms) deduplicate := by
  rw [shares_eq_mergeSort, shares_eq_mergeSort, mapValues_services_rename,
    mapValues_services_rename]
  congr 3
  refine (map_eq_of_forall₂ (h.services.imp ?_)).symm
  rintro ⟨name, operations⟩ ⟨name', operations'⟩ ⟨hname, hoperations⟩
  have hshares : operations.map (fun o => (p.transforms.onOperation o).share deduplicate)
      = operations'.map fun o => (p'.transforms.onOperation o).share deduplicate :=
    map_eq_of_forall₂ (hoperations.imp fun o o' ho =>
      ((ho.onOperation hp.operation hp.model).share_eq deduplicate).symm)
  dsimp only at hname ⊢
  rw [hname, hp.service, hshares]

/-- **A file shows nothing else of an operation.**  Two definitions of which the same is shown have
the same text, or the same error, under profiles that differ in the chain for parameters only; with a
valid package there is a text. -/
theorem Definition.render_eq_of_shownAlike {d d' : Definition} (h : d.ShownAlike d')
    {p p' : Profile} (hp : p.SameButParameters p') (settings : Settings) :
    d'.render p' settings = d.render p settings ∧
      (Package.isValid p.package → ∃ text, d.render p settings = .ok text) := by
  have hcheck : p'.check activeProfile = p.check activeProfile := by
    rw [Profile.check, Profile.check, hp.package]
  have hmodels : (d'.rename p'.transforms).models = (d.rename p.transforms).models := by
    simp only [Definition.rename, Transforms.onModel, Transforms.onType, h.models, hp.model,
      hp.property]
  have henums : (d'.rename p'.transforms).enums = (d.rename p.transforms).enums := h.enums
  have hdocument := ofDefinition_eq_of_shares hmodels henums
    (h.shares_rename hp settings.deduplicate) p.package
  refine ⟨?_, fun hvalid => ⟨_, Definition.render_eq_ok hvalid d settings⟩⟩
  unfold Definition.render
  rw [hcheck, hp.package, render_eq_text, render_eq_text, hdocument]

/-- An operation on a pet, with a failure and three successful bodies. -/
def weighPet : Operation where
  name := "weigh_pet"
  parameters := [⟨"pet", ⟨.model "pet_card", false⟩⟩]
  responses := .ofList [("404", some ⟨.primitive .string none, false⟩),
    ("200", some ⟨.primitive .number (some "float"), false⟩),
    ("201", some ⟨.model "pet_card", false⟩), ("202", some ⟨.primitive .string none, false⟩)]

/-- The same operation with other refinements, another failure, and another body in third place. -/
def weighPets : Operation where
  name := "weigh_pet"
  parameters := [⟨"body", ⟨.model "pet_card", true⟩⟩]
  responses := .ofList [("200", some ⟨.primitive .number none, true⟩), ("204", none),
    ("202", some ⟨.primitive .string (some "uuid"), true⟩),
    ("203", some ⟨.enumeration "Kind", false⟩), ("default", some ⟨.model "problem", false⟩)]

/-- An API with one operation on pets, and one that takes the given parameters. -/
def scales (weigh : Operation) (parameters : List Parameter) : Definition where
  services := .ofList [("pet_scales", [weigh, ⟨"tare", parameters, .empty⟩])]
  models := .ofList [("pet_card", .empty)]
  enums := .empty

/-- A profile with the given chain for parameters. -/
def scalesProfile (chain : List Transform) : Profile where
  mode := .protobuf
  package := "scales.v1"
  transforms := { Mode.protobuf.defaultTransforms with parameter := chain }

theorem render_scales_eq :
    let d := scales weighPet []
    let d' := scales weighPets [⟨"unit", ⟨.enumeration "Unit", false⟩⟩]
    d.ShownAlike d' ∧ (scalesProfile [.camelCase]).SameButParameters (scalesProfile []) ∧
      Package.isValid (scalesProfile [.camelCase]).package ∧
      ∃ text, d.render (scalesProfile [.camelCase]) {} = .ok text ∧
        d'.render (scalesProfile []) {} = .ok text := by
  intro d d'
  have hweigh : weighPet.ShownAlike weighPets := ⟨rfl, rfl, by decide +kernel⟩
  have htare : Operation.ShownAlike ⟨"tare", [], .empty⟩
      ⟨"tare", [⟨"unit", ⟨.enumeration "Unit", false⟩⟩], .empty⟩ := ⟨rfl, rfl, rfl⟩
  have hshown : d.ShownAlike d' :=
    ⟨rfl, rfl, .cons ⟨rfl, .cons hweigh (.cons htare .nil)⟩ .nil⟩
  have hprofiles : (scalesProfile [.camelCase]).SameButParameters (scalesProfile []) :=
    ⟨rfl, rfl, rfl, rfl, rfl⟩
  have hvalid : Package.isValid (scalesProfile [.camelCase]).package := by decide
  obtain ⟨hsame, htext⟩ := Definition.render_eq_of_shownAlike hshown hprofiles {}
  obtain ⟨text, htext⟩ := htext hvalid
  exact ⟨hshown, hprofiles, hvalid, text, htext, hsame.trans htext⟩

end ApiProto
