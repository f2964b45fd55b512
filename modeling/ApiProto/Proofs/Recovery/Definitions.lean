/-
  What the text of a definition tells about it.

  Where all names in a definition are identifiers, its schema is plain: the messages that calls take
  and give are named by identifiers too, and no line break stands in the name of a type.  So two such
  definitions of one text have one schema (`schema_eq_of_render_eq`), whatever the package and the
  layout are.
-/
import ApiProto.Proofs.Independence
import ApiProto.Proofs.Recovery.Schema

namespace ApiProto

/-! ## Names in a definition -/

/-- The name that a type refers to, or the one that refines a number. -/
def DataType.names (t : DataType) : List String :=
  match t.reference with
  | .primitive .number subType => subType.toList
  | .primitive .. => []
  | .model name => [name]
  | .enumeration name => [name]

theorem DataType.mem_names_of_model? {t : DataType} {name : String} (h : t.model? = some name) :
    name ∈ t.names := by
  obtain ⟨reference, isArray⟩ := t
  cases reference with
  | primitive kind subType => cases h
  | model model =>
      cases h
      exact List.mem_singleton_self name
  | enumeration e => cases h

/-- The name of an operation, and the names in the types of its parameters and responses. -/
def Operation.names (o : Operation) : List String :=
  o.name :: (o.parameters.flatMap fun p => p.type.names)
    ++ o.responses.entries.flatMap fun r => r.2.toList.flatMap DataType.names

theorem Operation.forall_mem_names {p : String → Prop} {o : Operation} :
    (∀ n ∈ o.names, p n) ↔ p o.name ∧ (∀ q ∈ o.parameters, ∀ n ∈ q.type.names, p n) ∧
      ∀ r ∈ o.responses.entries, ∀ t ∈ r.2, ∀ n ∈ t.names, p n := by
  simp only [names, List.cons_append, List.forall_mem_cons, List.forall_mem_append,
    List.forall_mem_flatMap, Option.mem_toList, Option.mem_def]

/-- The names of services, operations, models, properties, enumerations and values, those that types
refer to, and those that refine numbers. -/
def Definition.names (d : Definition) : List String :=
  (d.services.entries.flatMap fun s => s.1 :: s.2.flatMap Operation.names)
    ++ (d.models.entries.flatMap fun m => m.1 :: m.2.entries.flatMap fun p => p.1 :: p.2.names)
    ++ d.enums.entries.flatMap fun e => e.1 :: e.2

theorem Definition.forall_mem_names {p : String → Prop} {d : Definition} :
    (∀ n ∈ d.names, p n) ↔
      (∀ s ∈ d.services.entries, p s.1 ∧ ∀ o ∈ s.2, ∀ n ∈ o.names, p n) ∧
        (∀ m ∈ d.models.entries, p m.1 ∧ ∀ q ∈ m.2.entries, p q.1 ∧ ∀ n ∈ q.2.names, p n) ∧
          ∀ e ∈ d.enums.entries, p e.1 ∧ ∀ value ∈ e.2, p value := by
  simp only [names, List.forall_mem_cons, List.forall_mem_append, List.forall_mem_flatMap, and_assoc]

namespace Proto

open Package (IsIdentifier)

/-! ## Identifiers -/

section Identifiers

variable {o : Operation}

theorem requestType_isIdentifier (h : ∀ n ∈ o.names, IsIdentifier n.toList) :
    IsIdentifier (requestType o).toList := by
  obtain ⟨hname, hparameters, -⟩ := Operation.forall_mem_names.mp h
  -- the only parameter has a name to give, or the operation's own is used
  rw [Operation.requestType_eq]
  cases hmodel : o.soleModel? with
  | none =>
      rw [Option.getD_none, String.toList_append]
      exact hname.append (by decide)
  | some model =>
      unfold Operation.soleModel? at hmodel
      split at hmodel
      · rename_i q hq
        have hmem : q ∈ o.parameters := hq ▸ List.mem_singleton_self q
        exact hparameters q hmem model (DataType.mem_names_of_model? hmodel)
      · cases hmodel

theorem returnType_isIdentifier (h : ∀ n ∈ o.names, IsIdentifier n.toList) :
    ∀ response ∈ returnType o, IsIdentifier response.toList := by
  obtain ⟨hname, -, hresponses⟩ := Operation.forall_mem_names.mp h
  intro response hresponse
  unfold returnType at hresponse
  split at hresponse
  · cases hresponse
  · rename_i t rest hsuccess
    cases hresponse
    have ht : t ∈ o.successTypes := hsuccess ▸ List.mem_cons_self
    obtain ⟨r, hr, hbody⟩ := List.mem_filterMap.mp ht
    have hnames := hresponses r hr t (Option.ite_none_right_eq_some.mp hbody).2
    obtain ⟨reference, isArray⟩ := t
    cases reference with
    | primitive => exact hname
    | model model => exact hnames model (List.mem_singleton_self model)
    | enumeration e => exact hnames e (List.mem_singleton_self e)

theorem plain_ofOperation (h : ∀ n ∈ o.names, IsIdentifier n.toList) : (Rpc.ofOperation o).Plain where
  name := (Operation.forall_mem_names.mp h).1
  request := requestType_isIdentifier h
  response := returnType_isIdentifier h

theorem newline_notMem_primitiveName {kind : Primitive} {subType : Option String}
    (h : ∀ n ∈ DataType.names ⟨.primitive kind subType, false⟩, IsIdentifier n.toList) :
    '\n' ∉ (primitiveName kind subType).toList := by
  cases kind with
  | integer | string =>
      simp only [primitiveName]
      split <;> decide
  | number =>
      cases subType with
      | none => decide
      | some subType => exact (h subType (List.mem_singleton_self subType)).notMem rfl
  | boolean | file | object | array => simp [primitiveName]

/-- No line break stands in the name of a type. -/
theorem newline_notMem_typeName {t : DataType} (h : ∀ n ∈ t.names, IsIdentifier n.toList) :
    '\n' ∉ (typeName t).toList := by
  have hreference : '\n' ∉ (referenceName t.reference).toList := by
    obtain ⟨reference, isArray⟩ := t
    cases reference with
    | primitive kind subType => exact newline_notMem_primitiveName h
    | model model => exact (h model (List.mem_singleton_self model)).notMem rfl
    | enumeration e => exact (h e (List.mem_singleton_self e)).notMem rfl
  unfold typeName
  split
  · exact newline_notMem_append (by decide) hreference
  · exact hreference

theorem exists_operation_of_mem_wrapperGroups {services : List (String × Service)}
    {deduplicate : Bool} {w : Wrapper} (hw : w ∈ (wrapperGroups services deduplicate).flatten) :
    ∃ s ∈ services, ∃ o ∈ s.2, w.name = o.name := by
  obtain ⟨group, hgroup, hw⟩ := List.mem_flatten.mp hw
  obtain ⟨s, hs, rfl⟩ := List.mem_map.mp (List.mem_filter.mp hgroup).1
  obtain ⟨o, ho, hw⟩ := List.mem_flatMap.mp hw
  obtain ⟨-, -, -, hname, -⟩ := exists_response_of_mem deduplicate o hw
  exact ⟨s, hs, o, ho, hname⟩

/-- The schema of a definition is plain if all its names are identifiers. -/
theorem plain_ofDefinition {d : Definition} (h : ∀ n ∈ d.names, IsIdentifier n.toList)
    (deduplicate : Bool) : (Schema.ofDefinition d deduplicate).Plain := by
  obtain ⟨hservices, hmodels, henums⟩ := Definition.forall_mem_names.mp h
  have hsorted : ∀ s ∈ sortedServices d, s ∈ d.services.entries := fun s => List.mem_mergeSort.mp
  refine ⟨List.forall_mem_map.mpr fun s hs => ?_, fun e he => henums e (List.mem_mergeSort.mp he),
    List.forall_mem_append.mpr
      ⟨List.forall_mem_map.mpr fun m hm => ?_, List.forall_mem_map.mpr fun w hw => ?_⟩⟩
  · obtain ⟨hname, hoperations⟩ := hservices s (hsorted s hs)
    exact ⟨hname, List.forall_mem_map.mpr fun o ho => plain_ofOperation (hoperations o ho)⟩
  · obtain ⟨hname, hproperties⟩ := hmodels m (List.mem_mergeSort.mp hm)
    refine ⟨hname, List.forall_mem_map.mpr fun q hq => ?_⟩
    exact ⟨newline_notMem_typeName (hproperties q hq).2, (hproperties q hq).1⟩
  · obtain ⟨s, hs, o, ho, hname⟩ := exists_operation_of_mem_wrapperGroups hw
    have hoperation := (Operation.forall_mem_names.mp ((hservices s (hsorted s hs)).2 o ho)).1
    have hkind : '\n' ∉ w.kind.name.toList := by cases w.kind <;> decide
    have hvalue : IsIdentifier "value".toList := by decide
    refine ⟨?_, List.forall_mem_singleton.mpr ⟨hkind, hvalue⟩⟩
    rw [wrapperMessage, hname]
    exact hoperation

end Identifiers

/-- **A text determines the schema.**  Two definitions whose names are all identifiers have the same
text only if they declare the same services with the same calls, the same enumerations with the same
values, and the same messages with the same fields, all in the same order. -/
theorem schema_eq_of_render_eq {d d' : Definition} (h : ∀ n ∈ d.names, IsIdentifier n.toList)
    (h' : ∀ n ∈ d'.names, IsIdentifier n.toList) (package : String) (settings : Settings)
    (heq : render d package settings = render d' package settings) :
    Schema.ofDefinition d settings.deduplicate = Schema.ofDefinition d' settings.deduplicate := by
  have hplain := plain_ofDefinition h settings.deduplicate
  have hplain' := plain_ofDefinition h' settings.deduplicate
  have hdeclarations := declarations_ofDefinition d package settings.deduplicate
  have hdeclarations' := declarations_ofDefinition d' package settings.deduplicate
  -- from the texts to the declarations, and from these to the schemas
  rw [render_eq_text, render_eq_text] at heq
  refine Schema.eq_of_declarations_eq hplain hplain' ?_
  rw [← hdeclarations, ← hdeclarations']
  refine Document.declarations_eq_of_text_eq rfl ?_ ?_ heq
  · rw [hdeclarations]
    exact hplain.legible
  · rw [hdeclarations']
    exact hplain'.legible

/-- A market stall with one more operation. -/
def stall (operation : Operation) : Definition where
  services := .ofList [("StallService",
    [operation, ⟨"Buy", [⟨"item", ⟨.model "Item", false⟩⟩], .ofList [("204", none)]⟩])]
  models := .ofList [("Item", .ofList [("tags", ⟨.primitive .string none, true⟩),
    ("price", ⟨.primitive .number (some "float"), false⟩),
    ("parts", ⟨.primitive .array none, false⟩)])]
  enums := .ofList [("Kind", ["Fruit", "Bread"])]

/-- An operation that tells how many items there are, in one of two ways. -/
def countItems : Operation where
  name := "Count"
  parameters := []
  responses := .ofList [("200", some ⟨.primitive .integer (some "int64"), false⟩),
    ("201", some ⟨.primitive .string none, false⟩), ("404", some ⟨.model "Problem", false⟩)]

/-- The same with a parameter, and with another failure. -/
def countItemsOfKind : Operation where
  name := "Count"
  parameters := [⟨"kind", ⟨.enumeration "Kind", false⟩⟩]
  responses := .ofList [("500", none), ("200", some ⟨.primitive .integer none, true⟩),
    ("202", some ⟨.primitive .string none, false⟩)]

theorem schema_stall_eq :
    let d := stall countItems
    let d' := stall countItemsOfKind
    (∀ n ∈ d.names, IsIdentifier n.toList) ∧ (∀ n ∈ d'.names, IsIdentifier n.toList) ∧
      "float" ∈ d.names ∧ d ≠ d' ∧ render d "market.v1" ⟨0, false⟩ = render d' "market.v1" ⟨0, false⟩ ∧
      Schema.ofDefinition d false = Schema.ofDefinition d' false := by
  intro d d'
  have h : ∀ n ∈ d.names, IsIdentifier n.toList := by decide +kernel
  have h' : ∀ n ∈ d'.names, IsIdentifier n.toList := by decide +kernel
  have hfloat : "float" ∈ d.names := by decide +kernel
  have hne : d ≠ d' := by decide +kernel
  have heq : render d "market.v1" ⟨0, false⟩ = render d' "market.v1" ⟨0, false⟩ := by decide +kernel
  exact ⟨h, h', hfloat, hne, heq, schema_eq_of_render_eq h h' "market.v1" ⟨0, false⟩ heq⟩

end Proto

end ApiProto
