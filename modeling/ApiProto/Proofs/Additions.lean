/-
  Files stay compatible when their definition grows.

  An `Addition` appends a property, an enumeration value or an operation, or declares a model, an
  enumeration or a service whose name comes to none that is there.  After any number of additions
  the file still declares what it declared (`Keeps`): every field and every value with its number,
  every call in its service and before the calls that were added, and every wrapper message.
-/
import ApiProto.Proofs.BlockOrder
import ApiProto.Proofs.Numbering
import Mathlib.Data.List.Flatten
import Mathlib.Data.List.Sort
import Mathlib.Logic.Relation

namespace ApiProto

open Proto OrderedMap

open scoped List

/-- One definition is another with one thing more in it. -/
inductive Addition (t : Transforms) : Definition → Definition → Prop
  /-- A property is appended to a model; its name comes to that of no other property. -/
  | property {d : Definition} {name property : String} {model : Model} (type : DataType)
      (hmodel : d.models.get? name = some model)
      (hfresh : ∀ p ∈ model.keys,
        Transform.applyAll t.property p ≠ Transform.applyAll t.property property) :
      Addition t d (d.withModel name (model.withProperty property type))
  /-- A value is appended to an enumeration. -/
  | value {d : Definition} {name : String} {values : Enumeration} (value : String)
      (henum : d.enums.get? name = some values) :
      Addition t d (d.withEnum name (values ++ [value]))
  /-- A model is declared; its name comes to that of no other model. -/
  | model {d : Definition} {name : String} (model : Model)
      (hfresh : ∀ m ∈ d.models.keys,
        Transform.applyAll t.model m ≠ Transform.applyAll t.model name) :
      Addition t d (d.withModel name model)
  /-- An enumeration is declared. -/
  | enumeration {d : Definition} {name : String} (values : Enumeration)
      (hfresh : name ∉ d.enums.keys) :
      Addition t d (d.withEnum name values)
  /-- A service is declared; its name comes to that of no other service. -/
  | service {d : Definition} {name : String} (service : Service)
      (hfresh : ∀ s ∈ d.services.keys,
        Transform.applyAll t.service s ≠ Transform.applyAll t.service name) :
      Addition t d (d.withService name service)
  /-- An operation is appended to a service. -/
  | operation {d : Definition} {name : String} {service : Service} (o : Operation)
      (hservice : d.services.get? name = some service) :
      Addition t d (d.withService name (service.withOperation o))

/-- Everything listed under a name is listed under it again, before what is new there. -/
def Extends {β : Type} (l l' : List (String × List β)) : Prop :=
  ∀ name items, (name, items) ∈ l → ∃ added, (name, items ++ added) ∈ l'

/-- A document declares everything that another does, with the same numbers. -/
structure Keeps (doc doc' : Document) : Prop where
  /-- Messages keep their fields, with types and numbers. -/
  messages : Extends doc.messages doc'.messages
  /-- Enumerations keep their values, with numbers. -/
  enums : Extends doc.enums doc'.enums
  /-- Services keep their calls, before any that are new. -/
  services : Extends doc.services doc'.services
  /-- No wrapper message is lost. -/
  wrappers : doc.wrappers.flatten <+ doc'.wrappers.flatten

namespace Extends

variable {β : Type} {l l' l'' : List (String × List β)}

theorem refl (l : List (String × List β)) : Extends l l := by
  intro name items hitems
  exact ⟨[], by rwa [List.append_nil]⟩

theorem trans (h : Extends l l') (h' : Extends l' l'') : Extends l l'' := by
  intro name items hitems
  obtain ⟨added, hadded⟩ := h name items hitems
  obtain ⟨more, hmore⟩ := h' name (items ++ added) hadded
  exact ⟨added ++ more, by rwa [← List.append_assoc]⟩

/-- Lists made from the values of two maps extend each other if the values do. -/
theorem of_get? {γ : Type} (items : γ → List β) {m m' : OrderedMap String γ}
    (hl : l.Perm (m.entries.map fun e => (e.1, items e.2)))
    (hl' : l'.Perm (m'.entries.map fun e => (e.1, items e.2)))
    (hget : ∀ x v, m.get? x = some v → ∃ v', m'.get? x = some v' ∧ items v <+: items v') :
    Extends l l' := by
  intro name its hits
  obtain ⟨⟨x, v⟩, hv, hx⟩ := List.mem_map.mp (hl.mem_iff.mp hits)
  cases hx
  -- the items of the grown value are the old ones with something behind them
  obtain ⟨v', hv', added, hadded⟩ := hget x v (get?_eq_some_iff.mpr hv)
  refine ⟨added, hl'.mem_iff.mpr ?_⟩
  rw [hadded]
  exact List.mem_map_of_mem (f := fun e : String × γ => (e.1, items e.2)) (get?_eq_some_iff.mp hv')

end Extends

namespace Keeps

theorem refl (doc : Document) : Keeps doc doc where
  messages := Extends.refl _
  enums := Extends.refl _
  services := Extends.refl _
  wrappers := List.Sublist.refl _

theorem trans {doc doc' doc'' : Document} (h : Keeps doc doc') (h' : Keeps doc' doc'') :
    Keeps doc doc'' where
  messages := h.messages.trans h'.messages
  enums := h.enums.trans h'.enums
  services := h.services.trans h'.services
  wrappers := h.wrappers.trans h'.wrappers

end Keeps

/-! ## Models -/

theorem fieldsOf_prefix {m m' : Model} (h : m.entries <+: m'.entries) :
    fieldsOf m <+: fieldsOf m' := by
  obtain ⟨added, hadded⟩ := h
  rw [fieldsOf, fieldsOf, ← hadded, List.zipIdx_append, List.map_append]
  exact List.prefix_append ..

/-- The fields of a renamed model stay in place when a property with a new name is appended. -/
theorem fieldsOf_onModel_withProperty (t : Transforms) {m : Model} {property : String}
    (hfresh : ∀ p ∈ m.keys,
      Transform.applyAll t.property p ≠ Transform.applyAll t.property property)
    (type : DataType) :
    fieldsOf (t.onModel m) <+: fieldsOf (t.onModel (m.withProperty property type)) := by
  refine fieldsOf_prefix ⟨[(Transform.applyAll t.property property, t.onType type)], ?_⟩
  exact (entries_rekey_insert_of_fresh hfresh type).symm

variable {d d' : Definition} {package : String} {deduplicate : Bool}

theorem extends_messages (h : ∀ x m, d.models.get? x = some m →
      ∃ m', d'.models.get? x = some m' ∧ fieldsOf m <+: fieldsOf m') :
    Extends (Document.ofDefinition d package deduplicate).messages
      (Document.ofDefinition d' package deduplicate).messages :=
  Extends.of_get? fieldsOf (messages_perm ..) (messages_perm ..) h

/-! ## Enumerations -/

theorem extends_enums (h : ∀ x e, d.enums.get? x = some e →
      ∃ e', d'.enums.get? x = some e' ∧ e <+: e') :
    Extends (Document.ofDefinition d package deduplicate).enums
      (Document.ofDefinition d' package deduplicate).enums := by
  refine Extends.of_get? (fun e : Enumeration => e.zipIdx) (enums_perm ..) (enums_perm ..)
    fun x e he => ?_
  obtain ⟨e', he', added, rfl⟩ := h x e he
  refine ⟨e ++ added, he', ?_⟩
  rw [List.zipIdx_append]
  exact List.prefix_append ..

/-! ## Services -/

theorem services_perm (d : Definition) (package : String) (deduplicate : Bool) :
    (Document.ofDefinition d package deduplicate).services.Perm
      (d.services.entries.map fun e => (e.1, e.2.map Rpc.ofOperation)) :=
  (sortedServices_perm d).map _

/-- The wrapper messages of the service of a name. -/
def wrappersUnder (d : Definition) (deduplicate : Bool) (name : String) : List Wrapper :=
  ((d.services.get? name).getD []).flatMap (operationWrappers deduplicate)

theorem flatten_wrapperGroups (d : Definition) (deduplicate : Bool) :
    (wrapperGroups (sortedServices d) deduplicate).flatten
      = ((sortedServices d).map Prod.fst).flatMap (wrappersUnder d deduplicate) := by
  rw [wrapperGroups, List.flatten_filter_not_isEmpty, List.flatMap_map, ← List.flatMap_def]
  refine List.flatMap_congr fun s hs => ?_
  have hget : d.services.get? s.1 = some s.2 :=
    get?_eq_some_iff.mpr ((sortedServices_perm d).mem_iff.mp hs)
  rw [wrappersUnder, hget, Option.getD_some]

/-- The names of the services in a file. -/
theorem map_fst_sortedServices_perm (d : Definition) :
    ((sortedServices d).map Prod.fst).Perm d.services.keys :=
  (sortedServices_perm d).map Prod.fst

/-- New services come between the others, which stay in their order. -/
theorem map_fst_sortedServices_sublist (h : d.services.keys ⊆ d'.services.keys) :
    (sortedServices d).map Prod.fst <+ (sortedServices d').map Prod.fst := by
  have hperm := map_fst_sortedServices_perm d
  have hperm' := map_fst_sortedServices_perm d'
  have hsubperm : (sortedServices d).map Prod.fst <+~ (sortedServices d').map Prod.fst :=
    List.subperm_of_subset (hperm.nodup_iff.mpr d.services.nodup_keys)
      fun x hx => hperm'.mem_iff.mpr (h (hperm.mem_iff.mp hx))
  -- both lists of names are sorted
  exact List.sublist_of_subperm_of_pairwise hsubperm (pairwise_le_sortedServices d)
    (pairwise_le_sortedServices d')

theorem extends_services (h : ∀ x s, d.services.get? x = some s →
      ∃ s', d'.services.get? x = some s' ∧ s <+: s') :
    Extends (Document.ofDefinition d package deduplicate).services
      (Document.ofDefinition d' package deduplicate).services := by
  refine Extends.of_get? (fun s : Service => s.map Rpc.ofOperation) (services_perm ..)
    (services_perm ..) fun x s hs => ?_
  obtain ⟨s', hs', hprefix⟩ := h x s hs
  exact ⟨s', hs', hprefix.map _⟩

theorem sublist_wrappers (h : ∀ x s, d.services.get? x = some s →
      ∃ s', d'.services.get? x = some s' ∧ s <+: s') :
    (Document.ofDefinition d package deduplicate).wrappers.flatten
      <+ (Document.ofDefinition d' package deduplicate).wrappers.flatten := by
  have hget : ∀ x ∈ d.services.keys, ∃ s s', d.services.get? x = some s ∧
      d'.services.get? x = some s' ∧ s <+: s' := by
    intro x hx
    obtain ⟨⟨x, s⟩, hentry, rfl⟩ := List.mem_map.mp hx
    have hs : d.services.get? x = some s := get?_eq_some_iff.mpr hentry
    obtain ⟨s', hs', hprefix⟩ := h x s hs
    exact ⟨s, s', hs, hs', hprefix⟩
  have hkeys : d.services.keys ⊆ d'.services.keys := by
    intro x hx
    obtain ⟨-, s', -, hs', -⟩ := hget x hx
    exact List.mem_map.mpr ⟨(x, s'), get?_eq_some_iff.mp hs', rfl⟩
  show (wrapperGroups (sortedServices d) deduplicate).flatten
    <+ (wrapperGroups (sortedServices d') deduplicate).flatten
  rw [flatten_wrapperGroups, flatten_wrapperGroups]
  -- under a name that was there nothing is lost; new names only bring more
  refine List.Sublist.trans (List.Sublist.flatMap_right _ fun x hx => ?_)
    ((map_fst_sortedServices_sublist hkeys).flatMap (wrappersUnder d' deduplicate))
  obtain ⟨s, s', hs, hs', hprefix⟩ := hget x ((map_fst_sortedServices_perm d).mem_iff.mp hx)
  rw [wrappersUnder, wrappersUnder, hs, hs']
  exact hprefix.sublist.flatMap (operationWrappers deduplicate)

/-! ## Additions -/

section Additions

variable {profile : Profile} {settings : Settings}

theorem keeps_withModel {name : String} {model : Model}
    (h : (∃ old, d.models.get? name = some old ∧
        fieldsOf (profile.transforms.onModel old) <+: fieldsOf (profile.transforms.onModel model)) ∨
      ∀ m ∈ d.models.keys, Transform.applyAll profile.transforms.model m
        ≠ Transform.applyAll profile.transforms.model name) :
    Keeps (d.document profile settings) ((d.withModel name model).document profile settings) where
  messages := extends_messages fun _ _ hm => exists_get?_rekey_insert
    (fun m m' => fieldsOf m <+: fieldsOf m') (fun _ => List.prefix_rfl) h hm
  enums := Extends.refl _
  services := Extends.refl _
  wrappers := List.Sublist.refl _

theorem keeps_withEnum {name : String} {values : Enumeration}
    (h : ∀ old, d.enums.get? name = some old → old <+: values) :
    Keeps (d.document profile settings) ((d.withEnum name values).document profile settings) where
  messages := Extends.refl _
  enums := by
    refine extends_enums fun x e he => ?_
    show ∃ e', (d.enums.insert name values).get? x = some e' ∧ e <+: e'
    rw [get?_insert]
    by_cases hx : x = name
    · subst hx
      exact ⟨values, if_pos rfl, h e he⟩
    · exact ⟨e, (if_neg hx).trans he, List.prefix_rfl⟩
  services := Extends.refl _
  wrappers := List.Sublist.refl _

theorem keeps_withService {name : String} {service : Service}
    (h : (∃ old, d.services.get? name = some old ∧
        old.map profile.transforms.onOperation <+: service.map profile.transforms.onOperation) ∨
      ∀ s ∈ d.services.keys, Transform.applyAll profile.transforms.service s
        ≠ Transform.applyAll profile.transforms.service name) :
    Keeps (d.document profile settings)
      ((d.withService name service).document profile settings) := by
  have hget : ∀ x s, (d.rename profile.transforms).services.get? x = some s →
      ∃ s', ((d.withService name service).rename profile.transforms).services.get? x = some s' ∧
        s <+: s' :=
    fun _ _ hs => exists_get?_rekey_insert (· <+: ·) (fun _ => List.prefix_rfl) h hs
  exact ⟨Extends.refl _, Extends.refl _, extends_services hget, sublist_wrappers hget⟩

/-- One addition keeps everything. -/
theorem keeps_of_addition (h : Addition profile.transforms d d') :
    Keeps (d.document profile settings) (d'.document profile settings) := by
  cases h with
  | property type hmodel hfresh =>
      exact keeps_withModel (.inl ⟨_, hmodel, fieldsOf_onModel_withProperty _ hfresh type⟩)
  | value value henum =>
      refine keeps_withEnum fun old hold => ?_
      rw [henum] at hold
      cases hold
      exact List.prefix_append ..
  | model model hfresh => exact keeps_withModel (.inr hfresh)
  | enumeration values hfresh =>
      refine keeps_withEnum fun old hold => ?_
      exact absurd (List.mem_map_of_mem (get?_eq_some_iff.mp hold)) hfresh
  | service service hfresh => exact keeps_withService (.inr hfresh)
  | operation o hservice =>
      refine keeps_withService (.inl ⟨_, hservice, ?_⟩)
      exact (List.prefix_append _ [o]).map _

/-- Any number of additions keep everything. -/
theorem keeps_of_additions (h : Relation.ReflTransGen (Addition profile.transforms) d d') :
    Keeps (d.document profile settings) (d'.document profile settings) := by
  induction h with
  | refl => exact Keeps.refl _
  | tail _ hstep ih => exact ih.trans (keeps_of_addition hstep)

end Additions

/-- **A definition grows without breaking its file.** With a valid package there is a file before
and after any number of additions, and the later one keeps what the earlier one declares. -/
theorem Definition.render_keeps {profile : Profile} (hpackage : Package.isValid profile.package)
    {d d' : Definition} (h : Relation.ReflTransGen (Addition profile.transforms) d d')
    (settings : Settings) :
    d.render profile settings = .ok ((d.document profile settings).text settings.indentWidth) ∧
      d'.render profile settings = .ok ((d'.document profile settings).text settings.indentWidth) ∧
      Keeps (d.document profile settings) (d'.document profile settings) :=
  ⟨d.render_eq_ok hpackage settings, d'.render_eq_ok hpackage settings, keeps_of_additions h⟩

/-- A model with one property. -/
def named : Model := ofList [("name", ⟨.primitive .string none, false⟩)]

/-- A shop with one model, one enumeration and one service. -/
def petShop : Definition where
  services := ofList [("PetService", [.named "list_pets"])]
  models := ofList [("Pet", named)]
  enums := ofList [("Kind", ["CAT"])]

/-- The same shop with one more property, value, model and operation. -/
def grownShop : Definition :=
  (((petShop.withModel "Pet" (named.withProperty "age" ⟨.primitive .integer none, false⟩)).withEnum
    "Kind" (["CAT"] ++ ["DOG"])).withModel "Badge" empty).withService
    "PetService" (Service.withOperation [.named "list_pets"] (.named "add_pet"))

theorem render_keeps_petShop :
    Package.isValid "pets.v1" ∧
      Relation.ReflTransGen (Addition Mode.protobuf.defaultTransforms) petShop grownShop ∧
      petShop.render (.ofPackage "pets.v1") {}
        = .ok ((petShop.document (.ofPackage "pets.v1") {}).text 4) ∧
      grownShop.render (.ofPackage "pets.v1") {}
        = .ok ((grownShop.document (.ofPackage "pets.v1") {}).text 4) ∧
      Keeps (petShop.document (.ofPackage "pets.v1") {})
        (grownShop.document (.ofPackage "pets.v1") {}) := by
  have hvalid : Package.isValid (Profile.ofPackage "pets.v1").package := by decide
  have hgrown : Relation.ReflTransGen (Addition (Profile.ofPackage "pets.v1").transforms)
      petShop grownShop := by
    unfold grownShop
    refine .tail ?_ (.operation (.named "add_pet") (by decide +kernel))
    refine .tail ?_ (.model empty (by decide +kernel))
    refine .tail ?_ (.value "DOG" (by decide +kernel))
    exact .single (.property _ (by decide +kernel) (by decide +kernel))
  exact ⟨hvalid, hgrown, Definition.render_keeps hvalid hgrown {}⟩

end ApiProto
