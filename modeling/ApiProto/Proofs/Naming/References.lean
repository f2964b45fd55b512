/-
  References survive renaming.

  The names of the models and the references to them go through one chain, at different places of
  the definition.  Whatever names that chain brings together, the image of a reference to a model
  names a model again: the renamed form of the last one with that image.
-/
import ApiProto.Profile.Basic
import ApiProto.Proofs.Naming.Renamed

namespace ApiProto

open Transform OrderedMap

/-- A type refers to no model, or to one that the definition declares. -/
def Definition.Resolves (d : Definition) (type : DataType) : Prop :=
  ∀ name, type.model? = some name → name ∈ d.models.keys

/-- A definition is another one under chains of transforms, with its references intact. -/
structure KeepsReferences (t : Transforms) (d r : Definition) : Prop where
  /-- There is a service for each image of a name, in the order of first occurrence. -/
  service_names : r.services.keys = (d.services.keys.map (applyAll t.service)).eraseDups
  /-- Its operations are those of the last service of that image, one for one: with the same
  parameters, statuses and bodies, and every type as it was up to the name of a model. -/
  services : ∀ s ∈ r.services.entries, ∃ e,
    lastWith? (applyAll t.service) s.1 d.services.entries = some e ∧ RenamedService t e.2 s.2
  /-- There is a model for each image of a name, in the order of first occurrence. -/
  model_names : r.models.keys = (d.models.keys.map (applyAll t.model)).eraseDups
  /-- Its properties are those of the last model of that image. -/
  models : ∀ m ∈ r.models.entries, ∃ e,
    lastWith? (applyAll t.model) m.1 d.models.entries = some e ∧ RenamedModel t e.2 m.2
  /-- The enumerations stay as they are. -/
  enums : r.enums = d.enums
  /-- A type that refers to a model of the definition comes to one that refers to a model of the
  result, and this is the last model with the same image. -/
  target : ∀ old new, RenamedType t old new → ∀ name ∈ d.models.keys, old.model? = some name →
    new.model? = some (applyAll t.model name) ∧ ∃ e m,
      lastWith? (applyAll t.model) (applyAll t.model name) d.models.entries = some e ∧
        r.models.get? (applyAll t.model name) = some m ∧ RenamedModel t e.2 m
  /-- No type that resolved is left without its model. -/
  resolves : ∀ old new, RenamedType t old new → d.Resolves old → r.Resolves new

section Rename

variable {d : Definition} {t : Transforms} {name : String}

theorem exists_service_of_get? {s : Service} (h : (d.rename t).services.get? name = some s) :
    ∃ e, lastWith? (applyAll t.service) name d.services.entries = some e ∧
      RenamedService t e.2 s := by
  rw [get?_services_rename, Option.map_eq_some_iff] at h
  obtain ⟨e, he, rfl⟩ := h
  exact ⟨e, he, renamedService_map t e.2⟩

theorem exists_model_of_get? {m : Model} (h : (d.rename t).models.get? name = some m) :
    ∃ e, lastWith? (applyAll t.model) name d.models.entries = some e ∧ RenamedModel t e.2 m := by
  rw [get?_models_rename, Option.map_eq_some_iff] at h
  obtain ⟨e, he, rfl⟩ := h
  exact ⟨e, he, renamedModel_onModel t e.2⟩

/-- The image of the name of a model is the name of a model. -/
theorem mem_keys_models_rename (h : name ∈ d.models.keys) :
    applyAll t.model name ∈ (d.rename t).models.keys := by
  rw [keys_models_rename, List.mem_eraseDups]
  exact List.mem_map_of_mem h

theorem exists_target (h : name ∈ d.models.keys) :
    ∃ e m, lastWith? (applyAll t.model) (applyAll t.model name) d.models.entries = some e ∧
      (d.rename t).models.get? (applyAll t.model name) = some m ∧ RenamedModel t e.2 m := by
  obtain ⟨⟨image, m⟩, hm, himage⟩ := List.mem_map.mp (mem_keys_models_rename (t := t) h)
  have hget : (d.rename t).models.get? (applyAll t.model name) = some m :=
    get?_eq_some_iff.mpr (himage ▸ hm)
  obtain ⟨e, he, hrenamed⟩ := exists_model_of_get? hget
  exact ⟨e, m, he, hget, hrenamed⟩

theorem Definition.Resolves.rename {old new : DataType} (h : d.Resolves old)
    (hrenamed : RenamedType t old new) : (d.rename t).Resolves new := by
  intro image himage
  rw [hrenamed.model?_eq, Option.map_eq_some_iff] at himage
  obtain ⟨name, hname, rfl⟩ := himage
  exact mem_keys_models_rename (h name hname)

end Rename

/-- **References survive renaming**, whatever names the chains bring together. -/
theorem Definition.rename_keeps_references (d : Definition) (t : Transforms) :
    KeepsReferences t d (d.rename t) where
  service_names := keys_services_rename d t
  services s hs := exists_service_of_get? (get?_eq_some_iff.mpr hs)
  model_names := keys_models_rename d t
  models m hm := exists_model_of_get? (get?_eq_some_iff.mpr hm)
  enums := rfl
  target old new hrenamed name hname hold := by
    refine ⟨?_, exists_target hname⟩
    rw [hrenamed.model?_eq, hold, Option.map_some]
  resolves _ _ hrenamed hold := hold.rename hrenamed

/-- A reference to the first of two models with one image finds the properties of the second. -/
example :
    let d : Definition := {
      services := empty
      models := ofList [("pet_card", ofList [("next", ⟨.model "pet_card", true⟩)]),
        ("PetCard", ofList [("owner_id", ⟨.primitive .integer none, false⟩)]),
        ("shelf", ofList [("cards", ⟨.model "pet_card", true⟩)])]
      enums := empty }
    (d.rename Mode.protobuf.defaultTransforms).models.entries.map (fun m => (m.1, m.2.entries))
      = [("PetCard", [("ownerId", ⟨.primitive .integer none, false⟩)]),
        ("Shelf", [("cards", ⟨.model "PetCard", true⟩)])] := by
  cbv

end ApiProto
