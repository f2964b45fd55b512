/-
  What renaming makes of a definition, map by map and type by type.

  The services, the models and the properties of a model are maps that are keyed anew (`rekey`), so
  that what is known of merged names holds of each of them.  Below that nothing merges: a type, a
  parameter, an operation comes from one of the definition (`RenamedType`, `RenamedParameter`,
  `RenamedOperation`), and a model from one whose last properties it has (`RenamedModel`).
-/
import ApiProto.Naming.Rename
import ApiProto.Proofs.Merging
import Mathlib.Data.List.Forall2

namespace ApiProto

open Transform OrderedMap

/-! ## Maps -/

theorem Definition.services_rename (d : Definition) (t : Transforms) :
    (d.rename t).services = d.services.rekey (applyAll t.service) (List.map t.onOperation) := rfl

theorem Definition.models_rename (d : Definition) (t : Transforms) :
    (d.rename t).models = d.models.rekey (applyAll t.model) t.onModel := rfl

theorem Transforms.onModel_eq_rekey (t : Transforms) (m : Model) :
    t.onModel m = m.rekey (applyAll t.property) t.onType := rfl

theorem keys_onModel (t : Transforms) (m : Model) :
    (t.onModel m).keys = (m.keys.map (applyAll t.property)).eraseDups :=
  keys_rekey (applyAll t.property) t.onType m

theorem get?_onModel (t : Transforms) (m : Model) (name : String) :
    (t.onModel m).get? name = (lastWith? (applyAll t.property) name m.entries).map
      fun p => t.onType p.2 :=
  get?_rekey (applyAll t.property) t.onType m name

theorem keys_models_rename (d : Definition) (t : Transforms) :
    (d.rename t).models.keys = (d.models.keys.map (applyAll t.model)).eraseDups :=
  keys_rekey (applyAll t.model) t.onModel d.models

theorem get?_models_rename (d : Definition) (t : Transforms) (name : String) :
    (d.rename t).models.get? name = (lastWith? (applyAll t.model) name
      d.models.entries).map fun e => t.onModel e.2 :=
  get?_rekey (applyAll t.model) t.onModel d.models name

theorem keys_services_rename (d : Definition) (t : Transforms) :
    (d.rename t).services.keys = (d.services.keys.map (applyAll t.service)).eraseDups :=
  keys_rekey (applyAll t.service) (List.map t.onOperation) d.services

theorem get?_services_rename (d : Definition) (t : Transforms) (name : String) :
    (d.rename t).services.get? name = (lastWith? (applyAll t.service) name
      d.services.entries).map fun e => e.2.map t.onOperation :=
  get?_rekey (applyAll t.service) (List.map t.onOperation) d.services name

/-! ## Types -/

/-- A reference is another one whose model, if it is to one, has its new name. -/
inductive Reference.Renamed (rename : String → String) : Reference → Reference → Prop
  | primitive (kind : Primitive) (subType : Option String) :
      Renamed rename (.primitive kind subType) (.primitive kind subType)
  | model (name : String) : Renamed rename (.model name) (.model (rename name))
  | enumeration (name : String) : Renamed rename (.enumeration name) (.enumeration name)

/-- A type is another one under chains of transforms: a list exactly if that is one, with the same
reference up to the name of a model. -/
structure RenamedType (t : Transforms) (old new : DataType) : Prop where
  isArray : new.isArray = old.isArray
  reference : Reference.Renamed (applyAll t.model) old.reference new.reference

theorem renamedType_onType (t : Transforms) (type : DataType) : RenamedType t type (t.onType type) := by
  obtain ⟨reference, isArray⟩ := type
  cases reference with
  | primitive kind subType => exact ⟨rfl, .primitive kind subType⟩
  | model name => exact ⟨rfl, .model name⟩
  | enumeration name => exact ⟨rfl, .enumeration name⟩

/-- A renamed type refers to a model exactly if its original does, and then to its image. -/
theorem RenamedType.model?_eq {t : Transforms} {old new : DataType} (h : RenamedType t old new) :
    new.model? = old.model?.map (applyAll t.model) := by
  obtain ⟨oldReference, oldArray⟩ := old
  obtain ⟨newReference, newArray⟩ := new
  cases h.reference <;> rfl

/-! ## Operations -/

/-- A parameter is another one under chains of transforms. -/
structure RenamedParameter (t : Transforms) (old new : Parameter) : Prop where
  name : new.name = applyAll t.parameter old.name
  type : RenamedType t old.type new.type

/-- A response is another one: it has the same status, and a body exactly if that has one. -/
structure RenamedResponse (t : Transforms) (old new : String × Option DataType) : Prop where
  status : new.1 = old.1
  body : Option.Rel (RenamedType t) old.2 new.2

/-- An operation is another one under chains of transforms: its parameters and its responses are
those of the other, one for one. -/
structure RenamedOperation (t : Transforms) (old new : Operation) : Prop where
  name : new.name = applyAll t.operation old.name
  parameters : List.Forall₂ (RenamedParameter t) old.parameters new.parameters
  responses : List.Forall₂ (RenamedResponse t) old.responses.entries new.responses.entries

/-- The operations of a service are those of another one, one for one. -/
def RenamedService (t : Transforms) : Service → Service → Prop :=
  List.Forall₂ (RenamedOperation t)

/-- A list is related to its image if each member is related to its own. -/
theorem forall₂_map {α β : Type} {R : α → β → Prop} {f : α → β} (h : ∀ a, R a (f a))
    (as : List α) : List.Forall₂ R as (as.map f) :=
  List.forall₂_map_right_iff.mpr (List.forall₂_same.mpr fun a _ => h a)

section Operations

variable (t : Transforms)

theorem renamedParameter_onParameter (p : Parameter) : RenamedParameter t p (t.onParameter p) where
  name := rfl
  type := renamedType_onType t p.type

theorem renamedResponse_map (r : String × Option DataType) :
    RenamedResponse t r (r.1, r.2.map t.onType) := by
  obtain ⟨status, body⟩ := r
  cases body with
  | none => exact ⟨rfl, .none⟩
  | some type => exact ⟨rfl, .some (renamedType_onType t type)⟩

theorem renamedOperation_onOperation (o : Operation) : RenamedOperation t o (t.onOperation o) where
  name := rfl
  parameters := forall₂_map (renamedParameter_onParameter t) o.parameters
  responses := forall₂_map (renamedResponse_map t) o.responses.entries

theorem renamedService_map (s : Service) : RenamedService t s (s.map t.onOperation) :=
  forall₂_map (renamedOperation_onOperation t) s

end Operations

/-! ## Models -/

/-- A model is another one under chains of transforms: it has a property for each image of a name,
in the order of first occurrence, and the type of the last property of that image. -/
structure RenamedModel (t : Transforms) (old new : Model) : Prop where
  names : new.keys = (old.keys.map (applyAll t.property)).eraseDups
  types : ∀ p ∈ new.entries, ∃ q, lastWith? (applyAll t.property) p.1 old.entries = some q ∧
    RenamedType t q.2 p.2

theorem renamedModel_onModel (t : Transforms) (m : Model) : RenamedModel t m (t.onModel m) where
  names := keys_onModel t m
  types p hp := by
    have hget : (t.onModel m).get? p.1 = some p.2 := get?_eq_some_iff.mpr hp
    rw [get?_onModel, Option.map_eq_some_iff] at hget
    obtain ⟨q, hq, htype⟩ := hget
    exact ⟨q, hq, htype ▸ renamedType_onType t q.2⟩

/-! ## Names that stay apart -/

/-- No two services come to one name, no two models, and no two properties of a model. -/
structure Transforms.KeepsApart (t : Transforms) (d : Definition) : Prop where
  services : ∀ a ∈ d.services.keys, ∀ b ∈ d.services.keys,
    applyAll t.service a = applyAll t.service b → a = b
  models : ∀ a ∈ d.models.keys, ∀ b ∈ d.models.keys,
    applyAll t.model a = applyAll t.model b → a = b
  properties : ∀ m ∈ d.models.values, ∀ a ∈ m.keys, ∀ b ∈ m.keys,
    applyAll t.property a = applyAll t.property b → a = b

end ApiProto
