/-
  Renaming does not change how an operation is mapped.

  What a call takes and gives, and which wrapper messages an operation has, is decided by its
  parameters and by the statuses and bodies of its responses, never by a name.  Renaming keeps all of
  these in their places, so that the same parameter and the same response decide before and after it,
  and only the names in the answers are new (`MappedAlike`), whatever names the chains lead to.
-/
import ApiProto.Profile.Basic
import ApiProto.Proofs.Independence

namespace ApiProto

open Transform OrderedMap Proto

/-! ## The response that decides -/

/-- The first successful response with a body is the one in the given place, and its body has the
given type. -/
def Operation.DecidedAt (o : Operation) (i : Nat) (type : DataType) : Prop :=
  o.responses.entries.findIdx? hasSuccessBody = some i ∧
    ∃ status, o.responses.entries[i]? = some (status, some type)

/-- What a call gives under new names, for the old name of its operation and the reference of the
body that decides. -/
def Transforms.answer (t : Transforms) (operation : String) : Reference → String
  | .primitive .. => applyAll t.operation operation
  | .model name => applyAll t.model name
  | .enumeration name => name

/-- An operation is mapped as another one is, under new names. -/
structure MappedAlike (t : Transforms) (old new : Operation) : Prop where
  name : new.name = applyAll t.operation old.name
  /-- If there is one parameter and it refers to a model, the call takes the image of that. -/
  request_model : ∀ p model, old.parameters = [p] → p.type.model? = some model →
    requestType new = applyAll t.model model
  /-- If not, it takes a message of its own new name. -/
  request_own : (¬ ∃ p model, old.parameters = [p] ∧ p.type.model? = some model) →
    requestType new = applyAll t.operation old.name ++ "Request"
  /-- The response in the same place decides what a call gives, and its answer has the new names. -/
  answer : ∀ i type, old.DecidedAt i type → new.DecidedAt i (t.onType type) ∧
    returnType new = some (t.answer old.name type.reference)
  /-- Nothing is given exactly if nothing was, which is where no response decides. -/
  no_answer : (returnType new = none ↔ returnType old = none) ∧
    (returnType old = none ↔ ∀ i type, ¬ old.DecidedAt i type)
  /-- The wrapper messages have the same kinds, one for one, and the new name. -/
  wrappers : ∀ deduplicate, operationWrappers deduplicate new =
    (operationWrappers deduplicate old).map fun w => { w with name := applyAll t.operation old.name }

namespace Operation

variable {o : Operation} {i : Nat} {type : DataType}

/-- If some response decides, the call gives the answer to its body. -/
theorem DecidedAt.returnType_eq (h : o.DecidedAt i type) :
    returnType o = some (responseType o.name type) := by
  obtain ⟨hindex, status, hentry⟩ := h
  have hfind : o.responses.entries.find? hasSuccessBody = some (status, some type) := by
    rw [List.find?_eq_bind_findIdx?_getElem?, hindex, Option.bind_some, hentry]
  exact returnType_of_find? hfind

/-- A response that is found has a body. -/
theorem exists_decidedAt (h : o.responses.entries.findIdx? hasSuccessBody = some i) :
    ∃ type, o.DecidedAt i type := by
  obtain ⟨hi, hbody, -⟩ := List.findIdx?_eq_some_iff_getElem.mp h
  obtain ⟨type, htype⟩ := Option.isSome_iff_exists.mp ((Bool.and_eq_true _ _).mp hbody).2
  refine ⟨type, h, o.responses.entries[i].1, ?_⟩
  rw [List.getElem?_eq_getElem hi, ← htype]

/-- A call gives nothing exactly if no response decides. -/
theorem returnType_eq_none_iff :
    returnType o = none ↔ o.responses.entries.findIdx? hasSuccessBody = none := by
  constructor
  · intro h
    cases hindex : o.responses.entries.findIdx? hasSuccessBody with
    | none => rfl
    | some i =>
        obtain ⟨type, hdecided⟩ := exists_decidedAt hindex
        rw [hdecided.returnType_eq] at h
        cases h
  · intro h
    rw [List.findIdx?_eq_none_iff] at h
    have htypes : o.successTypes = [] :=
      List.filterMap_eq_nil_iff.mpr fun r hr => successBody_eq_none (by simpa using h r hr)
    rw [returnType, htypes]

theorem returnType_eq_none_iff_forall :
    returnType o = none ↔ ∀ i type, ¬ o.DecidedAt i type := by
  rw [returnType_eq_none_iff]
  constructor
  · intro h i type hdecided
    rw [hdecided.1] at h
    cases h
  · intro h
    by_contra hne
    obtain ⟨i, hindex⟩ := Option.ne_none_iff_exists'.mp hne
    obtain ⟨type, hdecided⟩ := exists_decidedAt hindex
    exact h i type hdecided

theorem soleModel?_eq_some_iff {model : String} :
    o.soleModel? = some model ↔ ∃ p, o.parameters = [p] ∧ p.type.model? = some model := by
  obtain ⟨name, parameters, responses⟩ := o
  match parameters with
  | [] => simp [soleModel?]
  | [_] => simp [soleModel?]
  | _ :: _ :: _ => simp [soleModel?]

/-! ## Renamed operations -/

section Renaming

variable (t : Transforms)

/-- The same response decides, and its body has its new type. -/
theorem findIdx?_onOperation (o : Operation) :
    (t.onOperation o).responses.entries.findIdx? hasSuccessBody
      = o.responses.entries.findIdx? hasSuccessBody := by
  show (o.responses.entries.map fun r => (r.1, r.2.map t.onType)).findIdx? hasSuccessBody = _
  rw [List.findIdx?_map]
  congr 1
  funext r
  simp [hasSuccessBody]

theorem DecidedAt.onOperation (h : o.DecidedAt i type) :
    (t.onOperation o).DecidedAt i (t.onType type) := by
  obtain ⟨hindex, status, hentry⟩ := h
  refine ⟨(findIdx?_onOperation t o).trans hindex, status, ?_⟩
  show (o.responses.entries.map fun r => (r.1, r.2.map t.onType))[i]? = _
  rw [List.getElem?_map, hentry]
  rfl

theorem responseType_onType (name : String) (type : DataType) :
    responseType (applyAll t.operation name) (t.onType type) = t.answer name type.reference := by
  obtain ⟨reference, isArray⟩ := type
  cases reference <;> rfl

theorem operationWrappers_onOperation (deduplicate : Bool) (o : Operation) :
    operationWrappers deduplicate (t.onOperation o) = (operationWrappers deduplicate o).map
      fun w => { w with name := applyAll t.operation o.name } := by
  have hkinds : (t.onOperation o).responses.entries.filterMap wrappedKind?
      = o.responses.entries.filterMap wrappedKind? := by
    rw [filterMap_wrappedKind?, filterMap_wrappedKind?, shownBodies_onOperation, List.filterMap_map]
    exact List.filterMap_congr fun r _ => kind?_mapModel _ r
  have hname : ∀ kinds : List Primitive, kinds.map (Wrapper.mk (applyAll t.operation o.name))
      = (kinds.map (Wrapper.mk o.name)).map fun w =>
        { w with name := applyAll t.operation o.name } := by
    intro kinds
    rw [List.map_map]
    rfl
  unfold operationWrappers
  rw [hkinds]
  cases deduplicate with
  | false => exact hname _
  | true => exact (congrArg (List.take 1) (hname _)).trans List.map_take.symm

/-- A renamed operation is mapped as its original. -/
theorem mappedAlike_onOperation (o : Operation) : MappedAlike t o (t.onOperation o) where
  name := rfl
  request_model p model hp hmodel := by
    have hsole : o.soleModel? = some model := soleModel?_eq_some_iff.mpr ⟨p, hp, hmodel⟩
    rw [requestType_eq, soleModel?_onOperation, hsole]
    rfl
  request_own h := by
    have hsole : o.soleModel? = none := by
      by_contra hne
      obtain ⟨model, hmodel⟩ := Option.ne_none_iff_exists'.mp hne
      obtain ⟨p, hp⟩ := soleModel?_eq_some_iff.mp hmodel
      exact h ⟨p, model, hp⟩
    rw [requestType_eq, soleModel?_onOperation, hsole]
    rfl
  answer i type h := by
    have hnew := h.onOperation t
    refine ⟨hnew, ?_⟩
    rw [hnew.returnType_eq, ← responseType_onType]
    rfl
  no_answer := by
    refine ⟨?_, returnType_eq_none_iff_forall⟩
    rw [returnType_eq_none_iff, returnType_eq_none_iff, findIdx?_onOperation]
  wrappers deduplicate := operationWrappers_onOperation t deduplicate o

end Renaming

end Operation

/-- **Renaming never changes how an operation is mapped.**  That holds of every operation, and so of
those of each service of a renamed definition, one for one with those of the last service that came
to its name. -/
theorem Definition.rename_maps_alike (t : Transforms) :
    (∀ o, MappedAlike t o (t.onOperation o)) ∧
      ∀ d : Definition, ∀ s ∈ (d.rename t).services.entries, ∃ e,
        lastWith? (applyAll t.service) s.1 d.services.entries = some e ∧
          List.Forall₂ (MappedAlike t) e.2 s.2 := by
  have halike : ∀ o, MappedAlike t o (t.onOperation o) := Operation.mappedAlike_onOperation t
  refine ⟨halike, fun d s hs => ?_⟩
  have hget : (d.rename t).services.get? s.1 = some s.2 := get?_eq_some_iff.mpr hs
  rw [get?_services_rename, Option.map_eq_some_iff] at hget
  obtain ⟨e, he, hs⟩ := hget
  exact ⟨e, he, hs ▸ forall₂_map halike e.2⟩

/-- An operation that the default chains leave without a name, as they do the model that it takes. -/
def nameless : Operation :=
  ⟨"_", [⟨"pet", ⟨.model "_", true⟩⟩],
    .ofList [("204", none), ("200", some ⟨.primitive .integer none, false⟩)]⟩

/-- Two services with one name under the default chains. -/
def shops : Definition where
  services := .ofList [("pet_shop", [.named "buy"]), ("pet-shop", [nameless])]
  models := .empty
  enums := .empty

theorem Definition.rename_maps_alike_shops :
    ∃ s ∈ (shops.rename Mode.protobuf.defaultTransforms).services.entries, s.1 = "PetShop" ∧
      List.Forall₂ (MappedAlike Mode.protobuf.defaultTransforms) [nameless] s.2 ∧
        s.2.map requestType = [""] ∧ s.2.map returnType = [some ""] := by
  have hs : ("PetShop", [Mode.protobuf.defaultTransforms.onOperation nameless])
      ∈ (shops.rename Mode.protobuf.defaultTransforms).services.entries := by
    decide +kernel
  obtain ⟨e, he, halike⟩ := (rename_maps_alike Mode.protobuf.defaultTransforms).2 shops _ hs
  have hlast : lastWith? (applyAll Mode.protobuf.defaultTransforms.service) "PetShop"
      shops.services.entries = some ("pet-shop", [nameless]) := by
    decide +kernel
  obtain rfl := Option.some.inj (he.symm.trans hlast)
  exact ⟨_, hs, rfl, halike, by decide +kernel, by decide +kernel⟩

end ApiProto
