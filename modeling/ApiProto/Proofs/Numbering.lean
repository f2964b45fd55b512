/-
  Which types a file declares, and how their members are numbered.

  Renaming may bring several names to one.  The file then declares one message for each image of a
  model name, with the content of the last model of that image, and in it one field for each image
  of a property name, in the place of the first and with the type of the last.  Fields are numbered
  from one and enumeration values from zero, without a gap.
-/
import ApiProto.Proofs.Layout
import ApiProto.Proofs.Naming.Renamed

namespace ApiProto

open Proto OrderedMap

/-- Fields declare the properties of a model under chains of transforms. -/
structure DeclaresFields (t : Transforms) (m : Model) (fields : List Field) : Prop where
  /-- There is one field for each image of a property name, in the order of first occurrence. -/
  names : fields.map Field.name = (m.keys.map (Transform.applyAll t.property)).eraseDups
  /-- The numbers are 1, 2, and so on. -/
  numbers : fields.map Field.number = List.range' 1 fields.length
  /-- A field has the renamed type of the last property with its name as image. -/
  types : ∀ f ∈ fields, ∃ p, lastWith? (Transform.applyAll t.property) f.name m.entries = some p ∧
    f.type = typeName (t.onType p.2)

/-- A document declares the types of a definition under chains of transforms. -/
structure DeclaresTypes (t : Transforms) (d : Definition) (doc : Document) : Prop where
  /-- No message is declared twice. -/
  nodup_messages : (doc.messages.map Prod.fst).Nodup
  /-- The messages are the images of the models. -/
  mem_messages : ∀ name, name ∈ doc.messages.map Prod.fst ↔
    ∃ model ∈ d.models.keys, Transform.applyAll t.model model = name
  /-- A message has the content of the last model with its name as image. -/
  content : ∀ m ∈ doc.messages, ∃ e,
    lastWith? (Transform.applyAll t.model) m.1 d.models.entries = some e ∧ DeclaresFields t e.2 m.2
  /-- Every enumeration is declared once, under its own name, with its values numbered 0, 1, and so
  on in their order. -/
  enums : doc.enums.Perm (d.enums.entries.map fun e => (e.1, e.2.zipIdx))

/-! ## Fields -/

theorem map_name_fieldsOf (m : Model) : (fieldsOf m).map Field.name = m.keys := by
  have hcomp : (fun p : (String × DataType) × Nat => p.1.1) = Prod.fst ∘ Prod.fst := rfl
  rw [fieldsOf, List.map_map]
  show (m.entries.zipIdx 1).map (fun p => p.1.1) = m.entries.map Prod.fst
  rw [hcomp, ← List.map_map, List.zipIdx_map_fst]

theorem map_number_fieldsOf (m : Model) :
    (fieldsOf m).map Field.number = List.range' 1 (fieldsOf m).length := by
  have hlength : (fieldsOf m).length = m.entries.length := by
    rw [fieldsOf, List.length_map, List.length_zipIdx]
  rw [hlength, ← List.zipIdx_map_snd, fieldsOf, List.map_map]
  rfl

/-- A field stands for an entry of its model. -/
theorem exists_entry_of_mem_fieldsOf {m : Model} {f : Field} (h : f ∈ fieldsOf m) :
    ∃ type, (f.name, type) ∈ m.entries ∧ f.type = typeName type := by
  obtain ⟨⟨⟨property, type⟩, number⟩, hp, rfl⟩ := List.mem_map.mp h
  have hentry : (property, type) ∈ (m.entries.zipIdx 1).map Prod.fst := List.mem_map_of_mem hp
  rw [List.zipIdx_map_fst] at hentry
  exact ⟨type, hentry, rfl⟩

theorem declaresFields_onModel (t : Transforms) (m : Model) :
    DeclaresFields t m (fieldsOf (t.onModel m)) where
  names := by
    rw [map_name_fieldsOf, keys_onModel]
  numbers := map_number_fieldsOf _
  types f hf := by
    obtain ⟨type, hentry, htype⟩ := exists_entry_of_mem_fieldsOf hf
    rw [← get?_eq_some_iff, get?_onModel, Option.map_eq_some_iff] at hentry
    obtain ⟨p, hp, rfl⟩ := hentry
    exact ⟨p, hp, htype⟩

/-! ## Messages -/

/-- The messages of a document, up to their order. -/
theorem messages_perm (d : Definition) (package : String) (deduplicate : Bool) :
    (Document.ofDefinition d package deduplicate).messages.Perm
      (d.models.entries.map fun e => (e.1, fieldsOf e.2)) :=
  (List.mergeSort_perm ..).map _

/-- The enumerations of a document, up to their order. -/
theorem enums_perm (d : Definition) (package : String) (deduplicate : Bool) :
    (Document.ofDefinition d package deduplicate).enums.Perm
      (d.enums.entries.map fun e => (e.1, e.2.zipIdx)) :=
  (List.mergeSort_perm ..).map _

theorem map_fst_messages_perm (d : Definition) (package : String) (deduplicate : Bool) :
    ((Document.ofDefinition d package deduplicate).messages.map Prod.fst).Perm d.models.keys := by
  have hperm := (messages_perm d package deduplicate).map Prod.fst
  rwa [List.map_map] at hperm

theorem declaresTypes_document (d : Definition) (profile : Profile) (settings : Settings) :
    DeclaresTypes profile.transforms d (d.document profile settings) where
  nodup_messages :=
    (map_fst_messages_perm ..).nodup_iff.mpr (d.rename profile.transforms).models.nodup_keys
  mem_messages name := by
    -- the blocks are sorted, so only membership survives of the order of first occurrence
    have hmem := (map_fst_messages_perm (d.rename profile.transforms) profile.package
      settings.deduplicate).mem_iff (a := name)
    rw [keys_models_rename, List.mem_eraseDups] at hmem
    exact hmem.trans List.mem_map
  content m hm := by
    have hentry := (messages_perm ..).mem_iff.mp hm
    obtain ⟨⟨name, model⟩, hmodel, rfl⟩ := List.mem_map.mp hentry
    rw [← get?_eq_some_iff, get?_models_rename, Option.map_eq_some_iff] at hmodel
    obtain ⟨e, he, rfl⟩ := hmodel
    exact ⟨e, he, declaresFields_onModel profile.transforms e.2⟩
  enums := enums_perm ..

/-- **What a file declares.** With a valid package the text of a definition is there, and its types
are those of the definition under the chains of the profile, numbered without a gap. -/
theorem Definition.render_declares {profile : Profile} (h : Package.isValid profile.package)
    (d : Definition) (settings : Settings) :
    d.render profile settings = .ok ((d.document profile settings).text settings.indentWidth) ∧
      DeclaresTypes profile.transforms d (d.document profile settings) :=
  ⟨d.render_eq_ok h settings, declaresTypes_document d profile settings⟩

/-- Two models of one image, the last of them with two properties of one image. -/
def mergedPets : Definition where
  services := empty
  models := ofList [
    ("pet_record", ofList [("tag", ⟨.primitive .string none, false⟩)]),
    ("PetRecord", ofList [
      ("pet_id", ⟨.primitive .integer none, false⟩),
      ("owner", ⟨.model "owner_card", false⟩),
      ("petId", ⟨.primitive .string none, false⟩)])]
  enums := ofList [("pet_kind", ["cat", "dog"])]

theorem render_declares_mergedPets :
    Package.isValid "pets.v1" ∧
      mergedPets.render (.ofPackage "pets.v1") {}
        = .ok ((mergedPets.document (.ofPackage "pets.v1") {}).text 4) ∧
      DeclaresTypes Mode.protobuf.defaultTransforms mergedPets
        (mergedPets.document (.ofPackage "pets.v1") {}) := by
  have hvalid : Package.isValid (Profile.ofPackage "pets.v1").package := by decide
  exact ⟨hvalid, Definition.render_declares hvalid mergedPets {}⟩

example : (mergedPets.document (.ofPackage "pets.v1") {}).messages
    = [("PetRecord", [⟨"string", "petId", 1⟩, ⟨"OwnerCard", "owner", 2⟩])] := by
  cbv

end ApiProto
