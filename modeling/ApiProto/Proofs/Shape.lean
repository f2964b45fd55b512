/-
  A value holds a draft exactly if it has the shape of a definition, and the draft has its types.

  Both are shown part by part, along the views of `Draft.View`.  For the types the value has to be
  one that a text spells: in such a value no name comes twice in an object, so that a map holds what
  all members come to.
-/
import ApiProto.Definition.Shape
import ApiProto.Draft.View
import ApiProto.Json.Grammar
import ApiProto.Proofs.Elaboration
import ApiProto.Proofs.Merging
import ApiProto.Proofs.Pointwise

namespace ApiProto.Json

variable {α β : Type}

/-! ## Kinds -/

theorem isSome_mapM {f : α → Option β} {l : List α} :
    (l.mapM f).isSome = l.all fun a => (f a).isSome := by
  induction l with
  | nil => rfl
  | cons a l ih =>
      rw [List.mapM_cons, List.all_cons, ← ih]
      cases f a with
      | none => rfl
      | some b => cases l.mapM f <;> rfl

@[simp] theorem isObject_object (ms : List (String × Json)) : (Json.object ms).isObject := by
  rw [isObject, isObjectOf, List.all_eq_true]
  exact fun _ _ => rfl

section Kinds

variable {item : Json → Option α} {kind : Json → Bool}

theorem isSome_textOf? (v : Json) : (textOf? v).isSome = v.isText := by
  cases v <;> rfl

theorem isSome_listOf? (h : ∀ v, (item v).isSome = kind v) (v : Json) :
    (listOf? item v).isSome = v.isArrayOf kind := by
  cases v with
  | array items => simp only [listOf?, isSome_mapM, isArrayOf, h]
  | _ => rfl

theorem isSome_dictOf? (h : ∀ v, (item v).isSome = kind v) (v : Json) :
    (dictOf? item v).isSome = v.isObjectOf kind := by
  cases v with
  | object ms => simp only [dictOf?, objectOf?, Option.isSome_map, isSome_mapM, isObjectOf, h]
  | _ => rfl

theorem isSome_memberOf? (h : ∀ v, (item v).isSome = kind v) (name : String)
    (ms : List (String × Json)) :
    (memberOf? item name ms).isSome = (Json.object ms).memberIs kind name := by
  rw [memberOf?, memberIs, member?]
  cases ms.lookup name with
  | none => rfl
  | some v => rw [Option.isSome_map, h, Option.all_some]

theorem isSome_bind {a? : Option α} {f : α → Option β} {b : Bool} (h : ∀ a, (f a).isSome = b) :
    (a? >>= f).isSome = (a?.isSome && b) := by
  cases a? with
  | none => rfl
  | some a => exact h a

end Kinds

end ApiProto.Json

namespace ApiProto.Draft

open ApiProto.Json

theorem isSome_memberOf?_some (name : String) (ms : List (String × Json)) :
    (memberOf? some name ms).isSome := by
  rw [memberOf?]
  cases ms.lookup name <;> rfl

/-- A parameter is the only part that has to have a member. -/
theorem isSome_parameterOf? (v : Json) : (parameterOf? v).isSome = v.isParameter := by
  cases v with
  | object ms =>
      obtain ⟨type, htype⟩ := Option.isSome_iff_exists.mp (isSome_memberOf?_some "dataType" ms)
      rw [isParameter, isObject_object, Bool.true_and, member?]
      simp only [parameterOf?, objectOf?, htype]
      rw [memberOf?]
      cases ms.lookup "name" with
      | none => rfl
      | some w => cases w <;> rfl
  | _ => rfl

theorem isSome_responseOf? (v : Json) : (responseOf? v).isSome = v.isObject := by
  cases v with
  | object ms =>
      have hoptional : ∀ w, (optionalOf? some w).isSome = true := by
        intro w
        cases w <;> rfl
      have hmember := isSome_memberOf? hoptional "dataType" ms
      rw [memberIs, Option.all_true] at hmember
      rw [isObject_object, ← hmember]
      have hget : ∀ type : Option (Option Json), (some (type.getD none)).isSome = true := fun _ => rfl
      exact (isSome_bind hget).trans (Bool.and_true _)
  | _ => rfl

theorem isSome_operationOf? (v : Json) : (operationOf? v).isSome = v.isOperation := by
  cases v with
  | object ms =>
      have hfinish : ∀ parameters responses,
          (OperationParts.finish ⟨parameters, responses⟩).toOption.isSome = true := fun _ _ => rfl
      refine (isSome_bind fun parameters => isSome_bind (hfinish parameters)).trans ?_
      rw [isSome_memberOf? (isSome_listOf? isSome_parameterOf?),
        isSome_memberOf? (isSome_dictOf? isSome_responseOf?), isOperation, isObject_object,
        Bool.true_and, Bool.and_true]
  | _ => rfl

/-- A value holds a draft exactly if it has the shape of a definition. -/
theorem isSome_draftOf? (v : Json) : (draftOf? v).isSome = v.isDefinition := by
  cases v with
  | object ms =>
      have hfinish : ∀ services models enums,
          (Parts.finish ⟨services, models, enums⟩).toOption.isSome = true := fun _ _ _ => rfl
      have hany : ∀ w : Json, (some w : Option Json).isSome = true := fun _ => rfl
      refine (isSome_bind fun services => isSome_bind fun models =>
        isSome_bind (hfinish services models)).trans ?_
      rw [isSome_memberOf? (isSome_dictOf? (isSome_dictOf? isSome_operationOf?)),
        isSome_memberOf? (isSome_dictOf? (isSome_dictOf? hany)),
        isSome_memberOf? (isSome_dictOf? (isSome_listOf? isSome_textOf?)), isDefinition,
        isObject_object, Bool.true_and, Bool.and_true, Bool.and_assoc]
      rfl
  | _ => rfl

end ApiProto.Draft

namespace ApiProto.Json

variable {α β : Type}

/-! ## Parts of spelled values -/

/-- Some text spells the value. -/
def IsSpelled (v : Json) : Prop := ∃ text, Spells v text

theorem Joined.exists_part {Part : α → List Char → Prop} {as : List α} {text : List Char}
    (h : Joined Part as text) : ∀ a ∈ as, ∃ t, Part a t := by
  induction h with
  | single _ part _ => exact List.forall_mem_singleton.mpr ⟨_, part⟩
  | cons _ part _ _ ih => exact List.forall_mem_cons.mpr ⟨⟨_, part⟩, ih⟩

theorem Enclosed.exists_part {Part : α → List Char → Prop} {as : List α} {text : List Char}
    (h : Enclosed Part as text) : ∀ a ∈ as, ∃ t, Part a t := by
  cases h with
  | empty _ => exact List.forall_mem_nil _
  | parts joined => exact joined.exists_part

theorem IsSpelled.nodup_names {ms : List (String × Json)} (h : IsSpelled (.object ms)) :
    (ms.map Prod.fst).Nodup := by
  obtain ⟨_, h⟩ := h
  cases h with
  | object _ hnodup => exact hnodup

theorem IsSpelled.member {ms : List (String × Json)} (h : IsSpelled (.object ms)) :
    ∀ m ∈ ms, IsSpelled m.2 := by
  obtain ⟨_, h⟩ := h
  cases h with
  | object hmembers _ =>
      intro m hm
      obtain ⟨_, @⟨name, v, _, _, _, t, _, _, _, hv⟩⟩ := hmembers.exists_part m hm
      exact ⟨t, hv⟩

theorem IsSpelled.values {v : Json} (h : IsSpelled v) : ∀ w ∈ v.values, IsSpelled w := by
  cases v with
  | object ms => exact List.forall_mem_map.mpr h.member
  | _ => exact List.forall_mem_nil _

theorem IsSpelled.items {v : Json} (h : IsSpelled v) : ∀ w ∈ v.items, IsSpelled w := by
  cases v with
  | array vs =>
      obtain ⟨_, h⟩ := h
      cases h with
      | array hitems => exact hitems.exists_part
  | _ => exact List.forall_mem_nil _

theorem IsSpelled.memberOrNull {v : Json} (h : IsSpelled v) (name : String) :
    IsSpelled (v.memberOrNull name) := by
  have hnull : IsSpelled .null := ⟨_, .null⟩
  cases v with
  | object ms =>
      rw [Json.memberOrNull, member?]
      cases hlookup : ms.lookup name with
      | none => exact hnull
      | some w =>
          obtain ⟨before, after, rfl, -⟩ := List.lookup_eq_some_iff.mp hlookup
          exact h.member (name, w) (by simp)
  | _ => exact hnull

/-! ## What the parts come to -/

theorem mapM_eq_some_iff {f : α → Option β} {l : List α} {bs : List β} :
    l.mapM f = some bs ↔ List.Forall₂ (fun a b => f a = some b) l bs := by
  induction l generalizing bs with
  | nil => simp [eq_comm]
  | cons a l ih =>
      simp only [List.mapM_cons, List.forall₂_cons_left_iff, Option.bind_eq_bind,
        Option.bind_eq_some_iff, Option.pure_def, Option.some.injEq]
      constructor
      · rintro ⟨b, hb, bs', hbs, rfl⟩
        exact ⟨b, bs', hb, ih.mp hbs, rfl⟩
      · rintro ⟨b, bs', hb, hbs, rfl⟩
        exact ⟨b, hb, bs', ih.mpr hbs, rfl⟩

theorem listOf?_eq_some_iff {item : Json → Option α} {items : List Json} {as : List α} :
    listOf? item (.array items) = some as ↔ List.Forall₂ (fun v a => item v = some a) items as :=
  mapM_eq_some_iff

/-- The map of an object has its names with what their values come to. -/
theorem dictOf?_eq_some_iff {item : Json → Option α} {ms : List (String × Json)}
    {d : OrderedMap String α} (hnodup : (ms.map Prod.fst).Nodup) :
    dictOf? item (.object ms) = some d ↔ Draft.Matches (fun v a => item v = some a) ms d.entries := by
  have hpair : ∀ (m : String × Json) (e : String × α),
      (item m.2).map (m.1, ·) = some e ↔ e.1 = m.1 ∧ item m.2 = some e.2 := by
    rintro ⟨name, v⟩ ⟨name', a⟩
    simp only [Option.map_eq_some_iff, Prod.mk.injEq]
    constructor
    · rintro ⟨_, ha, rfl, rfl⟩
      exact ⟨rfl, ha⟩
    · rintro ⟨rfl, ha⟩
      exact ⟨a, ha, rfl, rfl⟩
  have hmapM : ∀ es : List (String × α), (ms.mapM fun m => (item m.2).map (m.1, ·)) = some es ↔
      Draft.Matches (fun v a => item v = some a) ms es := by
    intro es
    simp only [mapM_eq_some_iff, hpair, Draft.Matches]
  rw [dictOf?, objectOf?, Option.map_eq_some_iff]
  -- no name is inserted twice, so the map holds the entries as they come
  constructor
  · rintro ⟨es, hes, rfl⟩
    have hmatches := (hmapM es).mp hes
    have hkeys : ms.map Prod.fst = es.map Prod.fst :=
      map_eq_of_forall₂ (hmatches.imp fun _ _ h => h.1.symm)
    rwa [OrderedMap.entries_ofList_of_nodup (hkeys ▸ hnodup)]
  · intro hmatches
    exact ⟨d.entries, (hmapM _).mpr hmatches,
      OrderedMap.ext (OrderedMap.entries_ofList_of_nodup d.nodup_keys)⟩

theorem listOf?_map {item : Json → Option β} {f : α → Json} {g : α → β}
    (h : ∀ a, item (f a) = some (g a)) (as : List α) :
    listOf? item (.array (as.map f)) = some (as.map g) := by
  rw [listOf?_eq_some_iff, List.forall₂_map_left_iff, List.forall₂_map_right_iff, List.forall₂_same]
  exact fun a _ => h a

theorem dictOf?_entries {item : Json → Option β} {f : α → Json} {g : α → β}
    {m : OrderedMap String α} (h : ∀ a ∈ m.values, item (f a) = some (g a)) :
    dictOf? item (.object (m.entries.map fun e => (e.1, f e.2))) = some (m.mapValues fun _ => g) := by
  have hnodup : ((m.entries.map fun e => (e.1, f e.2)).map Prod.fst).Nodup := by
    rw [List.map_map]
    exact m.nodup_keys
  rw [dictOf?_eq_some_iff hnodup, Draft.Matches, OrderedMap.entries_mapValues,
    List.forall₂_map_left_iff, List.forall₂_map_right_iff, List.forall₂_same]
  exact fun e he => ⟨rfl, h e.2 (List.mem_map_of_mem he)⟩

/-- The values of an object come to those of its map. -/
theorem values_of_dictOf? {item : Json → Option α} {v : Json} {d : OrderedMap String α}
    (hv : IsSpelled v) (h : dictOf? item v = some d) :
    List.Forall₂ (fun w e => IsSpelled w ∧ item w = some e.2) v.values d.entries := by
  refine (List.forall₂_and_left _ _).mpr ⟨hv.values, ?_⟩
  cases v with
  | object ms =>
      rw [Json.values, List.forall₂_map_left_iff]
      exact ((dictOf?_eq_some_iff hv.nodup_names).mp h).imp fun _ _ h => h.2
  | _ => cases h

theorem items_of_listOf? {item : Json → Option α} {v : Json} {as : List α}
    (h : listOf? item v = some as) : List.Forall₂ (fun w a => item w = some a) v.items as := by
  cases v with
  | array vs => exact listOf?_eq_some_iff.mp h
  | _ => cases h

/-- A member that is missing comes to nothing, like null. -/
theorem memberOrNull_of_memberOf? {item : Json → Option α} {name : String} {ms : List (String × Json)}
    {a? : Option α} (h : memberOf? item name ms = some a?) :
    (a? = none ∧ (Json.object ms).memberOrNull name = .null) ∨
      ∃ a, a? = some a ∧ item ((Json.object ms).memberOrNull name) = some a := by
  rw [Json.memberOrNull, member?]
  rw [memberOf?] at h
  cases hlookup : ms.lookup name with
  | none =>
      rw [hlookup] at h
      cases h
      exact .inl ⟨rfl, rfl⟩
  | some v =>
      rw [hlookup] at h
      obtain ⟨a, ha, rfl⟩ := Option.map_eq_some_iff.mp h
      exact .inr ⟨a, rfl, ha⟩

theorem values_of_memberOf? {item : Json → Option α} {name : String} {ms : List (String × Json)}
    {d? : Option (OrderedMap String α)} (hms : IsSpelled (.object ms))
    (h : memberOf? (dictOf? item) name ms = some d?) :
    List.Forall₂ (fun w e => IsSpelled w ∧ item w = some e.2)
      ((Json.object ms).memberOrNull name).values (d?.getD .empty).entries := by
  rcases memberOrNull_of_memberOf? h with ⟨rfl, hnull⟩ | ⟨d, rfl, hd⟩
  · rw [hnull]
    exact .nil
  · exact values_of_dictOf? (hms.memberOrNull name) hd

theorem items_of_memberOf? {item : Json → Option α} {name : String} {ms : List (String × Json)}
    {as? : Option (List α)} (h : memberOf? (listOf? item) name ms = some as?) :
    List.Forall₂ (fun w a => item w = some a) ((Json.object ms).memberOrNull name).items
      (as?.getD []) := by
  rcases memberOrNull_of_memberOf? h with ⟨rfl, hnull⟩ | ⟨as, rfl, has⟩
  · rw [hnull]
    exact .nil
  · exact items_of_listOf? has

end ApiProto.Json

namespace ApiProto.Draft

open ApiProto.Json

/-! ## Declared types -/

theorem type_of_parameterOf? {v : Json} {p : Parameter} (h : parameterOf? v = some p) :
    v.typeOfParameter = p.type := by
  cases v with
  | object ms =>
      simp only [parameterOf?, objectOf?, Option.bind_eq_bind, Option.bind_eq_some_iff] at h
      obtain ⟨name?, -, type?, htype, hfinish⟩ := h
      cases name? with
      | none => cases hfinish
      | some name =>
          cases hfinish
          rcases memberOrNull_of_memberOf? htype with ⟨rfl, hnull⟩ | ⟨type, rfl, heq⟩
          · exact hnull
          · exact Option.some.inj heq
  | _ => cases h

theorem type_of_responseOf? {v : Json} {type? : Option Json} (h : responseOf? v = some type?) :
    typeOfResponse? v = type? := by
  cases v with
  | object ms =>
      simp only [responseOf?, objectOf?, Option.bind_eq_bind, Option.bind_eq_some_iff] at h
      obtain ⟨member?, hmember, hget⟩ := h
      cases hget
      rw [typeOfResponse?]
      rcases memberOrNull_of_memberOf? hmember with ⟨rfl, hnull⟩ | ⟨type, rfl, heq⟩
      · rw [hnull]
        rfl
      · -- the view of null is none, and that of any other value is the value
        cases hv : (Json.object ms).memberOrNull "dataType" <;> (rw [hv] at heq; cases heq; rfl)
  | _ => cases h

theorem snd_parameterTypes (service operation : String) (index : Nat) (parameters : List Parameter) :
    (parameterTypes service operation index parameters).map Prod.snd
      = parameters.map Parameter.type := by
  have hfst : ((parameters.zipIdx index).map Prod.fst).map Parameter.type
      = parameters.map Parameter.type := by rw [List.zipIdx_map_fst]
  rw [parameterTypes, List.map_map, ← hfst, List.map_map]
  rfl

theorem snd_responseTypes (service operation : String) (responses : List (String × Option Json)) :
    (responseTypes service operation responses).map Prod.snd = responses.filterMap Prod.snd := by
  rw [responseTypes, List.map_filterMap]
  refine congrArg (List.filterMap · responses) (funext fun r => ?_)
  rw [Option.map_map]
  exact Option.map_id'

theorem snd_modelTypes (model : String) (properties : OrderedMap String Json) :
    (modelTypes model properties).map Prod.snd = properties.values := by
  rw [modelTypes, List.map_map]
  rfl

/-- An operation has the types that are declared in its value, whatever its name is. -/
theorem types_of_operationOf? {v : Json} {o : Operation} (hv : IsSpelled v)
    (h : operationOf? v = some o) (service name : String) :
    v.typesOfOperation = (operationTypes service (name, o)).map Prod.snd := by
  cases v with
  | object ms =>
      simp only [operationOf?, objectOf?, Option.bind_eq_bind, Option.bind_eq_some_iff] at h
      obtain ⟨parameters?, hparameters, responses?, hresponses, hfinish⟩ := h
      cases hfinish
      rw [typesOfOperation, operationTypes, List.map_append, snd_parameterTypes, snd_responseTypes]
      congr 1
      · exact map_eq_of_forall₂ ((items_of_memberOf? hparameters).imp fun _ _ => type_of_parameterOf?)
      · exact filterMap_eq_of_forall₂
          ((values_of_memberOf? hv hresponses).imp fun _ _ h => type_of_responseOf? h.2)
  | _ => cases h

/-- A draft has the types that are declared in its value. -/
theorem types_of_draftOf? {v : Json} {d : Draft} (hv : IsSpelled v) (h : draftOf? v = some d) :
    v.declaredTypes = d.types.map Prod.snd := by
  cases v with
  | object ms =>
      simp only [draftOf?, objectOf?, Option.bind_eq_bind, Option.bind_eq_some_iff] at h
      obtain ⟨services?, hservices, models?, hmodels, enums?, -, hfinish⟩ := h
      cases hfinish
      rw [declaredTypes, types, List.map_append, List.map_flatMap, List.map_flatMap]
      congr 1
      · refine flatMap_eq_of_forall₂ ((values_of_memberOf? hv hmodels).imp ?_)
        rintro model m ⟨hmodel, hm⟩
        rw [snd_modelTypes, OrderedMap.values, ← List.map_id model.values]
        exact map_eq_of_forall₂ ((values_of_dictOf? hmodel hm).imp fun _ _ h => Option.some.inj h.2)
      · refine flatMap_eq_of_forall₂ ((values_of_memberOf? hv hservices).imp ?_)
        rintro service s ⟨hservice, hs⟩
        rw [List.map_flatMap]
        refine flatMap_eq_of_forall₂ ((values_of_dictOf? hservice hs).imp ?_)
        rintro operation o ⟨hoperation, ho⟩
        exact types_of_operationOf? hoperation ho s.1 o.1
  | _ => cases h

end ApiProto.Draft
