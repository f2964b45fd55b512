/-
  Renaming that loses nothing.

  Under chains that keep the names of a definition apart every entry stays in its place
  (`renamedInPlace_rename`).  The default chains do so for snake-case names, since neither of the
  forms that they write brings two such names together.
-/
import ApiProto.Profile.Basic
import ApiProto.Proofs.Naming.Renamed
import ApiProto.Proofs.Naming.Words

namespace ApiProto

open Transform OrderedMap

/-! ## Entry for entry -/

/-- A model has the properties of another one, one for one, under their new names. -/
def ModelInPlace (t : Transforms) (old new : Model) : Prop :=
  List.Forall₂ (fun p p' => p'.1 = applyAll t.property p.1 ∧ RenamedType t p.2 p'.2)
    old.entries new.entries

/-- A definition is another one under chains of transforms, entry for entry. -/
structure RenamedInPlace (t : Transforms) (d r : Definition) : Prop where
  /-- Each service has its new name, and its own operations. -/
  services : List.Forall₂ (fun s s' => s'.1 = applyAll t.service s.1 ∧ RenamedService t s.2 s'.2)
    d.services.entries r.services.entries
  /-- Each model has its new name, and its own properties. -/
  models : List.Forall₂ (fun m m' => m'.1 = applyAll t.model m.1 ∧ ModelInPlace t m.2 m'.2)
    d.models.entries r.models.entries
  enums : r.enums = d.enums

/-- A map that is keyed anew without bringing keys together is related to the old one, entry for
entry, if the values are. -/
theorem forall₂_entries_rekey {α β γ δ : Type} [DecidableEq γ] {f : α → γ} {g : β → δ}
    {R : β → δ → Prop} {m : OrderedMap α β}
    (hkeys : ∀ a ∈ m.keys, ∀ b ∈ m.keys, f a = f b → a = b) (hg : ∀ v ∈ m.values, R v (g v)) :
    List.Forall₂ (fun e e' => e'.1 = f e.1 ∧ R e.2 e'.2) m.entries (m.rekey f g).entries := by
  rw [entries_rekey_of_injOn hkeys, List.forall₂_map_right_iff, List.forall₂_same]
  intro e he
  exact ⟨rfl, hg e.2 (List.mem_map_of_mem he)⟩

theorem renamedInPlace_rename {t : Transforms} {d : Definition} (h : t.KeepsApart d) :
    RenamedInPlace t d (d.rename t) where
  services := forall₂_entries_rekey h.services fun s _ => renamedService_map t s
  models := by
    have hmodel : ∀ m ∈ d.models.values, ModelInPlace t m (t.onModel m) := by
      intro m hm
      rw [t.onModel_eq_rekey]
      exact forall₂_entries_rekey (h.properties m hm) fun type _ => renamedType_onType t type
    rw [d.models_rename]
    exact forall₂_entries_rekey h.models hmodel
  enums := rfl

/-! ## Snake-case names -/

/-- Services, operations, models and properties have snake-case names. -/
structure Definition.IsSnakeCase (d : Definition) : Prop where
  services : ∀ name ∈ d.services.keys, Text.IsSnake name.toList
  operations : ∀ o ∈ d.services.values.flatten, Text.IsSnake o.name.toList
  models : ∀ name ∈ d.models.keys, Text.IsSnake name.toList
  properties : ∀ m ∈ d.models.values, ∀ name ∈ m.keys, Text.IsSnake name.toList

theorem Transform.applyAll_pascalCase_inj {a b : String} (ha : Text.IsSnake a.toList)
    (hb : Text.IsSnake b.toList) (h : applyAll [.pascalCase] a = applyAll [.pascalCase] b) :
    a = b := by
  have htext : Text.pascalCase a.toList = Text.pascalCase b.toList := String.ofList_injective h
  exact String.toList_injective (Text.pascalCase_inj ha hb htext)

theorem Transform.applyAll_camelCase_inj {a b : String} (ha : Text.IsSnake a.toList)
    (hb : Text.IsSnake b.toList) (h : applyAll [.camelCase] a = applyAll [.camelCase] b) :
    a = b := by
  have htext : Text.camelCase a.toList = Text.camelCase b.toList := String.ofList_injective h
  exact String.toList_injective (Text.camelCase_inj ha hb htext)

theorem keepsApart_defaultTransforms {d : Definition} (h : d.IsSnakeCase) :
    Mode.protobuf.defaultTransforms.KeepsApart d where
  services a ha b hb := applyAll_pascalCase_inj (h.services a ha) (h.services b hb)
  models a ha b hb := applyAll_pascalCase_inj (h.models a ha) (h.models b hb)
  properties m hm a ha b hb :=
    applyAll_camelCase_inj (h.properties m hm a ha) (h.properties m hm b hb)

/-- **The default chains lose nothing of snake-case names.**  Every service, model and property
stays in its place with what belongs to it, and different names stay different, also those of
operations. -/
theorem Definition.rename_default_lossless {d : Definition} (h : d.IsSnakeCase) :
    RenamedInPlace Mode.protobuf.defaultTransforms d (d.rename Mode.protobuf.defaultTransforms) ∧
      Mode.protobuf.defaultTransforms.KeepsApart d ∧
      ∀ o ∈ d.services.values.flatten, ∀ o' ∈ d.services.values.flatten,
        applyAll Mode.protobuf.defaultTransforms.operation o.name
          = applyAll Mode.protobuf.defaultTransforms.operation o'.name → o.name = o'.name := by
  have hapart := keepsApart_defaultTransforms h
  refine ⟨renamedInPlace_rename hapart, hapart, fun o ho o' ho' => ?_⟩
  exact applyAll_camelCase_inj (h.operations o ho) (h.operations o' ho')

/-- Names that differ in an underscore only, some of words of one letter. -/
def closeNames : Definition where
  services := ofList [("a_b", [.named "get_a", .named "geta"]), ("ab", [.named "g_e_t"])]
  models := ofList [("x1_y", ofList [("i_d", ⟨.model "x1y", true⟩), ("id", ⟨.model "x1_y", false⟩)]),
    ("x1y", empty)]
  enums := empty

theorem rename_default_lossless_closeNames :
    closeNames.IsSnakeCase ∧
      RenamedInPlace Mode.protobuf.defaultTransforms closeNames
        (closeNames.rename Mode.protobuf.defaultTransforms) ∧
      (closeNames.rename Mode.protobuf.defaultTransforms).services.keys = ["AB", "Ab"] ∧
      (closeNames.rename Mode.protobuf.defaultTransforms).models.keys = ["X1Y", "X1y"] := by
  have hsnake : closeNames.IsSnakeCase := by
    constructor <;> decide +kernel
  exact ⟨hsnake, (Definition.rename_default_lossless hsnake).1, by decide +kernel, by decide +kernel⟩

end ApiProto
