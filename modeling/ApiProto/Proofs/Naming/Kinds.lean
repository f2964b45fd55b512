/-
  The names of a definition, kind by kind.

  Each kind of names goes through a chain of its own, and so do the names by which types refer to
  models; those of enumerations stay.  Renaming makes no name up: each name of the result is the
  image of one of the same kind (`namesOf_rename_subset`).  And it takes no notice of what chains do
  to other names: chains that agree on those of a definition rename it alike (`rename_congr`).
-/
import ApiProto.Definition.Encoding
import ApiProto.Proofs.Naming.Renamed

namespace ApiProto

open Transform OrderedMap

/-! ## Kinds of names -/

/-- The kinds of names that a definition declares, and of those by which types refer to them. -/
inductive NameKind where
  | service
  | operation
  | parameter
  | model
  | property
  | modelReference
  | enumReference
  deriving DecidableEq, Repr

/-- The chain through which the names of a kind go. -/
def Transforms.chain (t : Transforms) : NameKind → List Transform
  | .service => t.service
  | .operation => t.operation
  | .parameter => t.parameter
  | .model | .modelReference => t.model
  | .property => t.property
  | .enumReference => []

/-- The name of the enumeration that the type refers to. -/
def DataType.enum? (t : DataType) : Option String :=
  match t.reference with
  | .enumeration name => some name
  | _ => none

namespace Definition

/-- The operations of all services. -/
def operations (d : Definition) : List Operation := d.services.values.flatten

/-- The names of a kind. -/
def namesOf (d : Definition) : NameKind → List String
  | .service => d.services.keys
  | .operation => d.operations.map Operation.name
  | .parameter => d.operations.flatMap fun o => o.parameters.map Parameter.name
  | .model => d.models.keys
  | .property => d.models.values.flatMap OrderedMap.keys
  | .modelReference => d.types.filterMap DataType.model?
  | .enumReference => d.types.filterMap DataType.enum?

end Definition

/-! ## Types -/

theorem DataType.enum?_mapModel (f : String → String) (type : DataType) :
    (type.mapModel f).enum? = type.enum? := by
  obtain ⟨reference, isArray⟩ := type
  cases reference <;> rfl

/-- A type depends on the new name of its own model only. -/
theorem DataType.mapModel_congr {f g : String → String} {type : DataType}
    (h : ∀ name ∈ type.model?, f name = g name) : type.mapModel f = type.mapModel g := by
  obtain ⟨reference, isArray⟩ := type
  cases reference with
  | primitive kind subType => rfl
  | model name =>
      show DataType.mk (.model (f name)) isArray = ⟨.model (g name), isArray⟩
      rw [h name rfl]
  | enumeration name => rfl

theorem Operation.types_onOperation (t : Transforms) (o : Operation) :
    (t.onOperation o).types = o.types.map t.onType := by
  have hparameters : (o.parameters.map t.onParameter).map Parameter.type
      = (o.parameters.map Parameter.type).map t.onType := by
    rw [List.map_map, List.map_map]
    rfl
  have hbodies : (o.responses.mapValues fun _ body => body.map t.onType).values.filterMap id
      = (o.responses.values.filterMap id).map t.onType := by
    rw [values, entries_mapValues, List.map_map, List.filterMap_map, List.map_filterMap, values,
      List.filterMap_map]
    rfl
  rw [types, types, List.map_append, ← hparameters, ← hbodies]
  rfl

namespace Definition

variable {d : Definition} {t u : Transforms}

/-- The types of a definition are those of its properties and those of its operations. -/
theorem mem_types_iff {type : DataType} :
    type ∈ d.types ↔
      (∃ m ∈ d.models.values, type ∈ m.values) ∨ ∃ o ∈ d.operations, type ∈ o.types := by
  rw [types, List.mem_append, List.mem_flatMap, List.mem_flatMap]
  refine or_congr_right ⟨?_, ?_⟩
  · rintro ⟨s, hs, htype⟩
    obtain ⟨o, ho, htype⟩ := List.mem_flatMap.mp htype
    exact ⟨o, List.mem_flatten.mpr ⟨s, hs, ho⟩, htype⟩
  · rintro ⟨o, ho, htype⟩
    obtain ⟨s, hs, ho⟩ := List.mem_flatten.mp ho
    exact ⟨s, hs, List.mem_flatMap.mpr ⟨o, ho, htype⟩⟩

/-! ## Where names come from -/

section Images

variable (d t)

theorem operations_rename_subset : (d.rename t).operations ⊆ d.operations.map t.onOperation := by
  intro o h
  obtain ⟨s, hs, ho⟩ := List.mem_flatten.mp h
  obtain ⟨s', hs', rfl⟩ := List.mem_map.mp (values_rekey_subset _ _ _ hs)
  obtain ⟨o', ho', rfl⟩ := List.mem_map.mp ho
  exact List.mem_map_of_mem (List.mem_flatten.mpr ⟨s', hs', ho'⟩)

theorem values_models_rename_subset : (d.rename t).models.values ⊆ d.models.values.map t.onModel :=
  values_rekey_subset _ _ _

theorem types_rename_subset : (d.rename t).types ⊆ d.types.map t.onType := by
  intro type h
  rcases mem_types_iff.mp h with ⟨m, hm, htype⟩ | ⟨o, ho, htype⟩
  · obtain ⟨m', hm', rfl⟩ := List.mem_map.mp (values_models_rename_subset d t hm)
    obtain ⟨type', htype', rfl⟩ := List.mem_map.mp (values_rekey_subset _ _ m' htype)
    exact List.mem_map_of_mem (mem_types_iff.mpr (.inl ⟨m', hm', htype'⟩))
  · obtain ⟨o', ho', rfl⟩ := List.mem_map.mp (operations_rename_subset d t ho)
    rw [Operation.types_onOperation] at htype
    obtain ⟨type', htype', rfl⟩ := List.mem_map.mp htype
    exact List.mem_map_of_mem (mem_types_iff.mpr (.inr ⟨o', ho', htype'⟩))

/-- The names of a kind in the result are images of names of that kind. -/
theorem namesOf_rename_subset (kind : NameKind) :
    (d.rename t).namesOf kind ⊆ (d.namesOf kind).map (applyAll (t.chain kind)) := by
  intro n h
  cases kind with
  | service => exact keys_rekey_subset _ _ _ h
  | operation =>
      obtain ⟨o, ho, rfl⟩ := List.mem_map.mp h
      obtain ⟨o', ho', rfl⟩ := List.mem_map.mp (operations_rename_subset d t ho)
      exact List.mem_map_of_mem (List.mem_map_of_mem ho')
  | parameter =>
      obtain ⟨o, ho, hn⟩ := List.mem_flatMap.mp h
      obtain ⟨o', ho', rfl⟩ := List.mem_map.mp (operations_rename_subset d t ho)
      obtain ⟨p, hp, rfl⟩ := List.mem_map.mp hn
      obtain ⟨p', hp', rfl⟩ := List.mem_map.mp hp
      exact List.mem_map_of_mem (List.mem_flatMap.mpr ⟨o', ho', List.mem_map_of_mem hp'⟩)
  | model => exact keys_rekey_subset _ _ _ h
  | property =>
      obtain ⟨m, hm, hn⟩ := List.mem_flatMap.mp h
      obtain ⟨m', hm', rfl⟩ := List.mem_map.mp (values_models_rename_subset d t hm)
      obtain ⟨n', hn', rfl⟩ := List.mem_map.mp (keys_rekey_subset _ _ m' hn)
      exact List.mem_map_of_mem (List.mem_flatMap.mpr ⟨m', hm', hn'⟩)
  | modelReference =>
      obtain ⟨type, htype, hn⟩ := List.mem_filterMap.mp h
      obtain ⟨type', htype', rfl⟩ := List.mem_map.mp (types_rename_subset d t htype)
      rw [(renamedType_onType t type').model?_eq, Option.map_eq_some_iff] at hn
      obtain ⟨n', hn', rfl⟩ := hn
      exact List.mem_map_of_mem (List.mem_filterMap.mpr ⟨type', htype', hn'⟩)
  | enumReference =>
      obtain ⟨type, htype, hn⟩ := List.mem_filterMap.mp h
      obtain ⟨type', htype', rfl⟩ := List.mem_map.mp (types_rename_subset d t htype)
      rw [Transforms.onType, DataType.enum?_mapModel] at hn
      exact List.mem_map_of_mem (List.mem_filterMap.mpr ⟨type', htype', hn⟩)

end Images

/-! ## Chains that agree -/

section Congruence

variable (h : ∀ kind, ∀ n ∈ d.namesOf kind, applyAll (t.chain kind) n = applyAll (u.chain kind) n)

include h

theorem onType_congr {type : DataType} (htype : type ∈ d.types) : t.onType type = u.onType type :=
  DataType.mapModel_congr fun _ hname =>
    h .modelReference _ (List.mem_filterMap.mpr ⟨type, htype, hname⟩)

theorem onOperation_congr {o : Operation} (ho : o ∈ d.operations) :
    t.onOperation o = u.onOperation o := by
  have htype : ∀ type ∈ o.types, t.onType type = u.onType type := fun type htype =>
    onType_congr h (mem_types_iff.mpr (.inr ⟨o, ho, htype⟩))
  have hname : applyAll t.operation o.name = applyAll u.operation o.name :=
    h .operation o.name (List.mem_map_of_mem ho)
  have hparameters : o.parameters.map t.onParameter = o.parameters.map u.onParameter := by
    refine List.map_congr_left fun p hp => ?_
    have hp' : applyAll t.parameter p.name = applyAll u.parameter p.name :=
      h .parameter p.name (List.mem_flatMap.mpr ⟨o, ho, List.mem_map_of_mem hp⟩)
    rw [Transforms.onParameter, hp', htype p.type (List.mem_append_left _ (List.mem_map_of_mem hp))]
    rfl
  have hresponses : (o.responses.mapValues fun _ body => body.map t.onType)
      = o.responses.mapValues fun _ body => body.map u.onType := by
    apply OrderedMap.ext
    rw [entries_mapValues, entries_mapValues]
    refine List.map_congr_left fun r hr => Prod.ext rfl ?_
    refine Option.map_congr fun type hbody => htype type (List.mem_append_right _ ?_)
    exact List.mem_filterMap.mpr ⟨r.2, List.mem_map_of_mem hr, hbody⟩
  rw [Transforms.onOperation, hname, hparameters, hresponses]
  rfl

theorem onModel_congr {m : Model} (hm : m ∈ d.models.values) : t.onModel m = u.onModel m := by
  refine rekey_congr (fun n hn => ?_) fun type htype => ?_
  · exact h .property n (List.mem_flatMap.mpr ⟨m, hm, hn⟩)
  · exact onType_congr h (mem_types_iff.mpr (.inl ⟨m, hm, htype⟩))

/-- Renaming depends on what the chains make of the names that are there. -/
theorem rename_congr : d.rename t = d.rename u := by
  have hservices : (d.rename t).services = (d.rename u).services := by
    refine rekey_congr (h .service) fun s hs => List.map_congr_left fun o ho => ?_
    exact onOperation_congr h (List.mem_flatten.mpr ⟨s, hs, ho⟩)
  have hmodels : (d.rename t).models = (d.rename u).models :=
    rekey_congr (h .model) fun _ hm => onModel_congr h hm
  show Definition.mk (d.rename t).services (d.rename t).models d.enums = _
  rw [hservices, hmodels]
  rfl

end Congruence

end Definition

end ApiProto
