/-
  Renaming twice.

  Chains without transforms change nothing.  Two steps of renaming are one step by the chains put
  behind each other, if the first step brings no two names of a map to one (`KeepsApart`); the
  second may.  Otherwise the steps can differ: the first loses an entry that would have been the
  last one of its image.
-/
import ApiProto.Proofs.Naming.Renamed

namespace ApiProto

open Transform OrderedMap

namespace Transforms

/-! ## Chains without transforms -/

theorem onType_none : none.onType = id := by
  funext type
  exact type.mapModel_id

theorem onParameter_none : none.onParameter = id := by
  funext p
  rw [onParameter, onType_none]
  rfl

theorem onOperation_none : none.onOperation = id := by
  funext o
  have hresponses : (o.responses.mapValues fun _ body => body.map none.onType) = o.responses := by
    apply OrderedMap.ext
    rw [onType_none, entries_mapValues]
    simp only [Option.map_id, id]
    exact List.map_id o.responses.entries
  rw [onOperation, onParameter_none, List.map_id, hresponses]
  rfl

theorem onModel_none : none.onModel = id := by
  funext m
  rw [onModel_eq_rekey, onType_none]
  exact rekey_id m

/-! ## Two steps -/

section Steps

variable (t u : Transforms)

theorem onType_andThen : (t.andThen u).onType = u.onType ∘ t.onType := by
  funext type
  have hchain : applyAll (t.andThen u).model = applyAll u.model ∘ applyAll t.model :=
    applyAll_append t.model u.model
  show type.mapModel (applyAll (t.andThen u).model) = _
  rw [hchain, ← DataType.mapModel_mapModel]
  rfl

theorem onParameter_andThen : (t.andThen u).onParameter = u.onParameter ∘ t.onParameter := by
  funext p
  have hname : applyAll (t.andThen u).parameter = applyAll u.parameter ∘ applyAll t.parameter :=
    applyAll_append t.parameter u.parameter
  rw [onParameter, hname, onType_andThen]
  rfl

theorem onOperation_andThen : (t.andThen u).onOperation = u.onOperation ∘ t.onOperation := by
  funext o
  have hname : applyAll (t.andThen u).operation = applyAll u.operation ∘ applyAll t.operation :=
    applyAll_append t.operation u.operation
  have hresponses : (o.responses.mapValues fun _ body => body.map (t.andThen u).onType)
      = (o.responses.mapValues fun _ body => body.map t.onType).mapValues
          fun _ body => body.map u.onType := by
    apply OrderedMap.ext
    simp only [entries_mapValues, List.map_map, onType_andThen, Function.comp_def, Option.map_map]
  rw [onOperation, hname, hresponses, onParameter_andThen, ← List.map_map]
  rfl

variable {t}

theorem onModel_andThen {m : Model}
    (h : ∀ a ∈ m.keys, ∀ b ∈ m.keys, applyAll t.property a = applyAll t.property b → a = b) :
    u.onModel (t.onModel m) = (t.andThen u).onModel m := by
  have hname : applyAll (t.andThen u).property = applyAll u.property ∘ applyAll t.property :=
    applyAll_append t.property u.property
  rw [onModel_eq_rekey, onModel_eq_rekey, onModel_eq_rekey, hname, onType_andThen]
  exact rekey_rekey h t.onType (applyAll u.property) u.onType

end Steps

end Transforms

/-! ## Definitions -/

open Transforms

theorem Definition.rename_none (d : Definition) : d.rename .none = d := by
  have hservices : (d.rename .none).services = d.services := by
    rw [d.services_rename, onOperation_none, List.map_id_fun]
    exact rekey_id d.services
  have hmodels : (d.rename .none).models = d.models := by
    rw [d.models_rename, onModel_none]
    exact rekey_id d.models
  show Definition.mk (d.rename .none).services (d.rename .none).models d.enums = d
  rw [hservices, hmodels]

theorem Definition.rename_rename {d : Definition} {t : Transforms} (h : t.KeepsApart d)
    (u : Transforms) : (d.rename t).rename u = d.rename (t.andThen u) := by
  have hservices : ((d.rename t).rename u).services = (d.rename (t.andThen u)).services := by
    have hchain : applyAll (t.andThen u).service = applyAll u.service ∘ applyAll t.service :=
      applyAll_append t.service u.service
    rw [services_rename, services_rename, services_rename, rekey_rekey h.services, hchain,
      onOperation_andThen, List.map_comp_map]
  have hmodels : ((d.rename t).rename u).models = (d.rename (t.andThen u)).models := by
    have hchain : applyAll (t.andThen u).model = applyAll u.model ∘ applyAll t.model :=
      applyAll_append t.model u.model
    rw [models_rename, models_rename, models_rename, rekey_rekey h.models, hchain]
    -- each model is renamed in two steps too, and its properties stay apart in the first
    exact rekey_congr (fun _ _ => rfl) fun m hm => onModel_andThen u (h.properties m hm)
  show Definition.mk ((d.rename t).rename u).services ((d.rename t).rename u).models d.enums = _
  rw [hservices, hmodels]
  rfl

/-- **Renaming is a composition of its steps.**  No transforms change nothing, and after chains that
keep all names apart any other chains act as if they stood behind them. -/
theorem Definition.rename_composes (d : Definition) :
    d.rename .none = d ∧
      ∀ t u : Transforms, t.KeepsApart d → (d.rename t).rename u = d.rename (t.andThen u) :=
  ⟨d.rename_none, fun _ u h => rename_rename h u⟩

/-- Pairs of names that their marks keep apart, and that come together in the Pascal form. -/
def twins : Definition where
  services := ofList [("pet_shop", [.named "buy"]), ("pet-shop", [.named "sell"])]
  models := ofList [("pet_card", ofList [("first_name", ⟨.model "pet-card", false⟩),
    ("first-name", ⟨.model "pet_card", true⟩)]), ("pet-card", empty)]
  enums := empty

/-- The same chain for names of every kind. -/
def Transforms.all (chain : List Transform) : Transforms := ⟨chain, chain, chain, chain, chain⟩

theorem rename_composes_twins :
    (Transforms.all [.upperCase]).KeepsApart twins ∧
      (twins.rename (.all [.upperCase])).rename (.all [.pascalCase])
        = twins.rename (.all [.upperCase, .pascalCase]) ∧
      (twins.rename (.all [.upperCase, .pascalCase])).models.keys = ["PetCard"] := by
  have hapart : (Transforms.all [.upperCase]).KeepsApart twins := by
    constructor <;> decide +kernel
  exact ⟨hapart, twins.rename_composes.2 _ (.all [.pascalCase]) hapart, by decide +kernel⟩

-- Where the first step brings names together the two can differ: it puts the last of three entries
-- in the place of the first, and the second step then takes the one between them for the last.
example :
    let models := ofList [("a_b", ofList [("first", ⟨.model "x", false⟩)]),
      ("ab", ofList [("second", ⟨.model "x", false⟩)]), ("a-b", ofList [("third", ⟨.model "x", false⟩)])]
    let d : Definition := ⟨empty, models, empty⟩
    let t : Transforms := { Transforms.none with model := [.pascalCase] }
    let u : Transforms := { Transforms.none with model := [.upperCase] }
    ((d.rename t).rename u).models.values.map OrderedMap.keys = [["second"]] ∧
      (d.rename (t.andThen u)).models.values.map OrderedMap.keys = [["third"]] := by
  decide +kernel

end ApiProto
