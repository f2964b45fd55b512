/-
  Paths tell places apart.

  The path of a place is a row of parts with dots between them (`Place.parts`).  Where no name has a
  dot, the parts are read back from the path by cutting it there, and their number tells which kind
  of place it is; so different places have different paths (`Place.path_inj`).  The types of a draft
  stand at different places, since the names in a map and the indices of parameters are different,
  and then the path of an error shows which type is not understood (`Draft.paths_identify`).
-/
import ApiProto.Proofs.Elaboration
import Mathlib.Data.List.Nodup

namespace ApiProto

namespace Place

/-- The model or the service that a place belongs to. -/
def outer : Place → String
  | .property model _ => model
  | .parameter service _ _ => service
  | .response service _ _ => service

/-- The property or the operation that a place belongs to. -/
def inner : Place → String
  | .property _ name => name
  | .parameter _ operation _ => operation
  | .response _ operation _ => operation

/-! ## Parts of a path -/

/-- The names in a place. -/
def names : Place → List String
  | .property model name => [model, name]
  | .parameter service operation _ => [service, operation]
  | .response service operation status => [service, operation, status]

/-- What stands between the dots of a path. -/
def parts : Place → List String
  | .property model name => ["models", model, name]
  | .parameter service operation index =>
    ["services", service, operation, "parameters[" ++ toString index ++ "]", "dataType"]
  | .response service operation status =>
    ["services", service, operation, "responses", status, "dataType"]

theorem toList_path (p : Place) :
    p.path.toList = ['.'].intercalate (p.parts.map String.toList) := by
  cases p with
  | property model name =>
      show ("models." ++ model ++ "." ++ name).toList = _
      simp only [parts, String.toList_append, List.map_cons, List.map_nil,
        List.intercalate_cons_cons, List.intercalate_singleton, List.append_assoc]
      rfl
  | parameter service operation index =>
      show ("services." ++ service ++ "." ++ operation ++ ".parameters[" ++ toString index
        ++ "].dataType").toList = _
      simp only [parts, String.toList_append, List.map_cons, List.map_nil,
        List.intercalate_cons_cons, List.intercalate_singleton, List.append_assoc]
      rfl
  | response service operation status =>
      show ("services." ++ service ++ "." ++ operation ++ ".responses." ++ status
        ++ ".dataType").toList = _
      simp only [parts, String.toList_append, List.map_cons, List.map_nil,
        List.intercalate_cons_cons, List.intercalate_singleton, List.append_assoc]
      rfl

theorem dot_notMem_index (index : Nat) :
    '.' ∉ ("parameters[" ++ toString index ++ "]").toList := by
  have hdigits : '.' ∉ Nat.toDigits 10 index := fun hmem =>
    absurd (Nat.isDigit_of_mem_toDigits (by decide) (by decide) hmem) (by decide)
  simp [hdigits]

theorem dot_notMem_parts {p : Place} (h : ∀ n ∈ p.names, '.' ∉ n.toList) :
    ∀ s ∈ p.parts, '.' ∉ s.toList := by
  cases p with
  | property model name => simp_all [names, parts]
  | parameter service operation index =>
      have hindex := dot_notMem_index index
      simp_all [names, parts]
  | response service operation status => simp_all [names, parts]

/-- Cutting a path at its dots gives its parts, if no name has a dot. -/
theorem splitOn_path {p : Place} (h : ∀ n ∈ p.names, '.' ∉ n.toList) :
    p.path.toList.splitOn '.' = p.parts.map String.toList := by
  have hne : p.parts.map String.toList ≠ [] := by
    cases p <;> exact List.cons_ne_nil _ _
  rw [toList_path]
  exact List.splitOn_intercalate '.' (List.forall_mem_map.mpr (dot_notMem_parts h)) hne

/-- The number of parts tells the kind of a place, and the parts hold its names and its index. -/
theorem parts_injective : Function.Injective parts := by
  intro p q h
  cases p with
  | property model name =>
      cases q with
      | property => simp_all [parts]
      | parameter | response => simp [parts] at h
  | parameter service operation index =>
      cases q with
      | parameter service' operation' index' =>
          have hrepr : index.repr = index'.repr := by simp_all [parts]
          -- the digits of an index are read back
          have hdigits : Nat.toDigits 10 index = Nat.toDigits 10 index' := by
            rw [← Nat.toList_repr, ← Nat.toList_repr, hrepr]
          have hindex : index = index' := by
            rw [← Nat.ofDigitChars_ten_toDigits (n := index), hdigits,
              Nat.ofDigitChars_ten_toDigits]
          simp_all [parts]
      | property | response => simp [parts] at h
  | response service operation status =>
      cases q with
      | response => simp_all [parts]
      | property | parameter => simp [parts] at h

/-- Places whose names have no dots are told apart by their paths. -/
theorem path_inj {p q : Place} (hp : ∀ n ∈ p.names, '.' ∉ n.toList)
    (hq : ∀ n ∈ q.names, '.' ∉ n.toList) (h : p.path = q.path) : p = q := by
  have hparts : p.parts.map String.toList = q.parts.map String.toList := by
    rw [← splitOn_path hp, ← splitOn_path hq, h]
  exact parts_injective (List.map_injective_iff.mpr (fun _ _ => String.toList_injective) hparts)

-- a dot in a name hides where the name ends
example : (property "a.b" "c").path = (property "a" "b.c").path := by decide

end Place

namespace Draft

/-! ## Places of the types of a draft -/

/-- The types stand at different places. -/
def Apart (ts : List (Place × Json)) : Prop := ts.Pairwise fun t t' => t.1 ≠ t'.1

/-- The entries of a map have types at different places, if the place of a type tells the key of its
entry. -/
theorem apart_flatMap {β : Type} {m : OrderedMap String β} {f : String × β → List (Place × Json)}
    (key : Place → String) (hkey : ∀ e ∈ m.entries, ∀ t ∈ f e, key t.1 = e.1)
    (hf : ∀ e ∈ m.entries, Apart (f e)) : Apart (m.entries.flatMap f) := by
  have hkeys : m.entries.Pairwise fun e e' => e.1 ≠ e'.1 := List.pairwise_map.mp m.nodup_keys
  refine List.pairwise_flatMap.mpr ⟨hf, hkeys.imp_of_mem ?_⟩
  intro e e' he he' hne t ht t' ht' heq
  exact hne (by rw [← hkey e he t ht, heq, hkey e' he' t' ht'])

theorem exists_of_mem_modelTypes {model : String} {properties : OrderedMap String Json}
    {t : Place × Json} (ht : t ∈ modelTypes model properties) :
    ∃ p ∈ properties.entries, t.1 = .property model p.1 := by
  obtain ⟨p, hp, rfl⟩ := List.mem_map.mp ht
  exact ⟨p, hp, rfl⟩

theorem exists_of_mem_operationTypes {service : String} {o : String × Operation} {t : Place × Json}
    (ht : t ∈ operationTypes service o) :
    (∃ index, t.1 = .parameter service o.1 index) ∨
      ∃ r ∈ o.2.responses.entries, t.1 = .response service o.1 r.1 := by
  rcases List.mem_append.mp ht with ht | ht
  · obtain ⟨p, -, rfl⟩ := List.mem_map.mp ht
    exact .inl ⟨p.2, rfl⟩
  · obtain ⟨r, hr, hbody⟩ := List.mem_filterMap.mp ht
    obtain ⟨v, -, rfl⟩ := Option.map_eq_some_iff.mp hbody
    exact .inr ⟨r, hr, rfl⟩

/-- Parameters have different indices. -/
theorem apart_parameterTypes (service operation : String) (index : Nat)
    (parameters : List Parameter) :
    Apart (parameterTypes service operation index parameters) := by
  have hindices : (parameters.zipIdx index).Pairwise fun p p' => p.2 ≠ p'.2 := by
    rw [← List.pairwise_map, List.zipIdx_map_snd]
    exact List.nodup_range' 1
  refine List.pairwise_map.mpr (hindices.imp ?_)
  intro p p' hne heq
  exact hne (Place.parameter.inj heq).2.2

/-- Responses have different statuses. -/
theorem apart_responseTypes (service operation : String)
    (responses : OrderedMap String (Option Json)) :
    Apart (responseTypes service operation responses.entries) := by
  have hkeys : responses.entries.Pairwise fun r r' => r.1 ≠ r'.1 :=
    List.pairwise_map.mp responses.nodup_keys
  refine List.pairwise_filterMap.mpr (hkeys.imp ?_)
  intro r r' hne t ht t' ht' heq
  obtain ⟨v, -, rfl⟩ := Option.map_eq_some_iff.mp ht
  obtain ⟨v', -, rfl⟩ := Option.map_eq_some_iff.mp ht'
  exact hne (Place.response.inj heq).2.2

theorem apart_operationTypes (service : String) (o : String × Operation) :
    Apart (operationTypes service o) := by
  refine List.pairwise_append.mpr ⟨apart_parameterTypes service o.1 0 o.2.parameters,
    apart_responseTypes service o.1 o.2.responses, ?_⟩
  intro t ht t' ht' heq
  obtain ⟨p, -, rfl⟩ := List.mem_map.mp ht
  obtain ⟨r, -, hbody⟩ := List.mem_filterMap.mp ht'
  obtain ⟨v, -, rfl⟩ := Option.map_eq_some_iff.mp hbody
  cases heq

theorem apart_modelTypes (model : String) (properties : OrderedMap String Json) :
    Apart (modelTypes model properties) := by
  have hkeys : properties.entries.Pairwise fun p p' => p.1 ≠ p'.1 :=
    List.pairwise_map.mp properties.nodup_keys
  refine List.pairwise_map.mpr (hkeys.imp ?_)
  intro p p' hne heq
  exact hne (Place.property.inj heq).2

theorem outer_of_mem_operationTypes {service : String} {o : String × Operation} {t : Place × Json}
    (ht : t ∈ operationTypes service o) : t.1.outer = service ∧ t.1.inner = o.1 := by
  rcases exists_of_mem_operationTypes ht with ⟨index, hplace⟩ | ⟨r, -, hplace⟩
  · rw [hplace]
    exact ⟨rfl, rfl⟩
  · rw [hplace]
    exact ⟨rfl, rfl⟩

/-- No two types of a draft stand at one place. -/
theorem apart_types (d : Draft) : Apart d.types := by
  have hmodels : Apart (d.models.entries.flatMap fun m => modelTypes m.1 m.2) := by
    refine apart_flatMap Place.outer (fun m _ t ht => ?_) fun m _ => apart_modelTypes m.1 m.2
    obtain ⟨p, -, hplace⟩ := exists_of_mem_modelTypes ht
    rw [hplace]
    rfl
  have hservice : ∀ s : String × OrderedMap String Operation,
      Apart (s.2.entries.flatMap (operationTypes s.1)) := fun s =>
    apart_flatMap Place.inner (fun o _ t ht => (outer_of_mem_operationTypes ht).2)
      fun o _ => apart_operationTypes s.1 o
  have hservices : Apart
      (d.services.entries.flatMap fun s => s.2.entries.flatMap (operationTypes s.1)) := by
    refine apart_flatMap Place.outer (fun s _ t ht => ?_) fun s _ => hservice s
    obtain ⟨o, -, ht⟩ := List.mem_flatMap.mp ht
    exact (outer_of_mem_operationTypes ht).1
  refine List.pairwise_append.mpr ⟨hmodels, hservices, ?_⟩
  -- a property is neither a parameter nor a response
  intro t ht t' ht' heq
  obtain ⟨m, -, ht⟩ := List.mem_flatMap.mp ht
  obtain ⟨p, -, hplace⟩ := exists_of_mem_modelTypes ht
  obtain ⟨s, -, ht'⟩ := List.mem_flatMap.mp ht'
  obtain ⟨o, -, ht'⟩ := List.mem_flatMap.mp ht'
  rw [hplace] at heq
  rcases exists_of_mem_operationTypes ht' with ⟨index, hplace'⟩ | ⟨r, -, hplace'⟩
  · rw [hplace'] at heq
    cases heq
  · rw [hplace'] at heq
    cases heq

/-! ## Drafts without dots -/

/-- No name of a service, an operation, a model or a property has a dot, and no status key. -/
structure Dotless (d : Draft) : Prop where
  models : ∀ m ∈ d.models.entries, '.' ∉ m.1.toList ∧ ∀ name ∈ m.2.keys, '.' ∉ name.toList
  services : ∀ s ∈ d.services.entries, '.' ∉ s.1.toList ∧ ∀ o ∈ s.2.entries, '.' ∉ o.1.toList ∧
    ∀ status ∈ o.2.responses.keys, '.' ∉ status.toList

/-- The names in the place of a type are names of the draft. -/
theorem Dotless.dot_notMem {d : Draft} (h : d.Dotless) {t : Place × Json} (ht : t ∈ d.types) :
    ∀ n ∈ t.1.names, '.' ∉ n.toList := by
  rcases List.mem_append.mp ht with ht | ht
  · obtain ⟨m, hm, ht⟩ := List.mem_flatMap.mp ht
    obtain ⟨hmodel, hnames⟩ := h.models m hm
    obtain ⟨p, hp, hplace⟩ := exists_of_mem_modelTypes ht
    have hname := hnames p.1 (List.mem_map_of_mem hp)
    rw [hplace]
    exact List.forall_mem_cons.mpr ⟨hmodel, List.forall_mem_singleton.mpr hname⟩
  · obtain ⟨s, hs, ht⟩ := List.mem_flatMap.mp ht
    obtain ⟨o, ho, ht⟩ := List.mem_flatMap.mp ht
    obtain ⟨hservice, hoperations⟩ := h.services s hs
    obtain ⟨hoperation, hstatuses⟩ := hoperations o ho
    rcases exists_of_mem_operationTypes ht with ⟨index, hplace⟩ | ⟨r, hr, hplace⟩
    · rw [hplace]
      exact List.forall_mem_cons.mpr ⟨hservice, List.forall_mem_singleton.mpr hoperation⟩
    · have hstatus := hstatuses r.1 (List.mem_map_of_mem hr)
      rw [hplace]
      exact List.forall_mem_cons.mpr ⟨hservice,
        List.forall_mem_cons.mpr ⟨hoperation, List.forall_mem_singleton.mpr hstatus⟩⟩

/-- **The path of an error shows which type is meant.**  If no name in a draft has a dot, its types
have different paths, so the one that an error is about is the only one with the path of the
error. -/
theorem paths_identify {d : Draft} (h : d.Dotless) :
    d.paths.Nodup ∧ ∀ e, d.elaborate = .error e → (e.place, e.property) ∈ d.types ∧
      ∀ t ∈ d.types, t.1.path = e.place.path → t = (e.place, e.property) := by
  have hnodup : (d.types.map fun t => t.1.path).Nodup := by
    refine List.pairwise_map.mpr (d.apart_types.imp_of_mem ?_)
    intro t t' ht ht' hne heq
    exact hne (Place.path_inj (h.dot_notMem ht) (h.dot_notMem ht') heq)
  refine ⟨d.map_path_types ▸ hnodup, fun e he => ?_⟩
  obtain ⟨before, after, htypes, -, -⟩ :=
    firstError?_eq_some_iff.mp (elaborate_eq_error_iff.mp he)
  have hmem : (e.place, e.property) ∈ d.types :=
    htypes ▸ List.mem_append_right before List.mem_cons_self
  exact ⟨hmem, fun t ht heq => List.inj_on_of_nodup_map hnodup ht hmem heq⟩

/-- A draft whose names are those that paths are made of. -/
def confusable : Draft where
  services := ⟨[("models", ⟨[("parameters[0]", ⟨[⟨"dataType", .null⟩], .empty⟩),
    ("responses", ⟨[⟨"a", .object [("complex", .string "Pet")]⟩],
      ⟨[("parameters[0]", some (.bool true)), ("dataType", none)], by decide⟩⟩)], by decide⟩)],
    by decide⟩
  models := ⟨[("services", ⟨[("models", .object [("primitive", .string "string")])], by decide⟩)],
    by decide⟩
  enums := .empty

theorem paths_identify_confusable :
    confusable.Dotless ∧ confusable.paths.Nodup ∧
      confusable.elaborate = .error ⟨.undecided, .parameter "models" "parameters[0]" 0, .null⟩ ∧
      ∀ t ∈ confusable.types, t.1.path = "services.models.parameters[0].parameters[0].dataType" →
        t = (.parameter "models" "parameters[0]" 0, .null) := by
  have hdotless : confusable.Dotless := by
    constructor <;> decide
  have herror : confusable.elaborate
      = .error ⟨.undecided, .parameter "models" "parameters[0]" 0, .null⟩ := rfl
  obtain ⟨hnodup, hidentify⟩ := paths_identify hdotless
  exact ⟨hdotless, hnodup, herror, (hidentify _ herror).2⟩

end Draft

end ApiProto
