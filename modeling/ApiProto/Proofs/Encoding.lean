/-
  The text of a definition: what it spells, and the draft that it holds.
-/
import ApiProto.Definition.Encoding
import ApiProto.Proofs.Elaboration
import ApiProto.Proofs.Reading.Compact
import ApiProto.Proofs.Shape

namespace ApiProto

open ApiProto.Json (IsWritten)

/-! ## Types -/

theorem Primitive.name_ne_empty (kind : Primitive) : kind.name ≠ "" := by
  cases kind <;> decide

namespace TypeReader

variable {members : List (String × Json)} {name s : String}

theorem textMember?_of_lookup (h : members.lookup name = some (.string s)) (hs : s ≠ "") :
    textMember? members name = some s := by
  rw [textMember?, h]
  exact if_neg hs

theorem ne_empty_of_textMember? (h : textMember? members name = some s) : s ≠ "" := by
  unfold textMember? at h
  split at h
  · split at h
    · cases h
    · rename_i hne
      cases h
      exact hne
  · cases h

/-- What is written for a reference is read as it, if all its names are there. -/
theorem reference_members {t : DataType} (h : t.hasNames) :
    reference (t.reference.members ++ [("isArray", .bool t.isArray)]) = .ok t.reference := by
  obtain ⟨⟨kind, _ | subType⟩ | name | name, array⟩ := t
  · have hkind : textMember? [("primitive", .string kind.name), ("isArray", .bool array)] "primitive"
        = some kind.name := textMember?_of_lookup rfl kind.name_ne_empty
    simp only [Reference.members, List.cons_append, List.nil_append, reference, hkind,
      Primitive.ofName?_name]
    rfl
  · have hkind : textMember? [("primitive", .string kind.name), ("subType", .string subType),
        ("isArray", .bool array)] "primitive" = some kind.name :=
      textMember?_of_lookup rfl kind.name_ne_empty
    have hsubType : textMember? [("primitive", .string kind.name), ("subType", .string subType),
        ("isArray", .bool array)] "subType" = some subType :=
      textMember?_of_lookup rfl fun hempty => bne_iff_ne.mp h (congrArg some hempty)
    simp only [Reference.members, List.cons_append, List.nil_append, reference, hkind, hsubType,
      Primitive.ofName?_name]
  · -- the members that decide before this one are not there
    have hname : textMember? [("complex", .string name), ("isArray", .bool array)] "complex"
        = some name := textMember?_of_lookup rfl (bne_iff_ne.mp h)
    have hkind : textMember? [("complex", .string name), ("isArray", .bool array)] "primitive"
        = none := rfl
    simp only [Reference.members, List.cons_append, List.nil_append, reference, hkind, hname]
  · have hname : textMember? [("enum", .string name), ("isArray", .bool array)] "enum"
        = some name := textMember?_of_lookup rfl (bne_iff_ne.mp h)
    have hkind : textMember? [("enum", .string name), ("isArray", .bool array)] "primitive"
        = none := rfl
    have hmodel : textMember? [("enum", .string name), ("isArray", .bool array)] "complex"
        = none := rfl
    simp only [Reference.members, List.cons_append, List.nil_append, reference, hkind, hmodel, hname]

/-- A type with all its names is read from what is written for it. -/
theorem read_toJson {t : DataType} (h : t.hasNames) : read t.toJson = .ok t := by
  have hfault : (t.reference.members ++ [("isArray", Json.bool t.isArray)]).findSome? memberFault?
      = none := by
    obtain ⟨⟨kind, _ | subType⟩ | name | name, array⟩ := t <;> rfl
  have harray : isArray (t.reference.members ++ [("isArray", .bool t.isArray)]) = t.isArray := by
    obtain ⟨⟨kind, _ | subType⟩ | name | name, array⟩ := t <;> rfl
  rw [DataType.toJson, read, hfault]
  simp only [reference_members h, harray]
  rfl

theorem hasNames_of_reference {r : Reference} (h : reference members = .ok r) (array : Bool) :
    (DataType.mk r array).hasNames := by
  -- a kind, then a model, then an enumeration; each branch has found a text
  unfold reference at h
  split at h
  · split at h
    · cases h
      refine bne_iff_ne.mpr fun hempty => ?_
      exact ne_empty_of_textMember? hempty rfl
    · cases h
  · split at h
    · rename_i hname
      cases h
      exact bne_iff_ne.mpr (ne_empty_of_textMember? hname)
    · split at h
      · rename_i hname
        cases h
        exact bne_iff_ne.mpr (ne_empty_of_textMember? hname)
      · cases h

/-- A type that is read has all its names: an empty one counts as missing. -/
theorem hasNames_of_read {v : Json} {t : DataType} (h : read v = .ok t) : t.hasNames := by
  cases v with
  | object members =>
      rw [read] at h
      cases hfault : members.findSome? memberFault? with
      | some fault =>
          rw [hfault] at h
          cases h
      | none =>
          rw [hfault] at h
          cases hreference : reference members with
          | error fault =>
              simp only [hreference] at h
              cases h
          | ok r =>
              simp only [hreference] at h
              cases h
              exact hasNames_of_reference hreference _
  | _ => cases h

end TypeReader

/-! ## The text of a definition -/

section Written

variable {n : Nat}

theorem Reference.isWritten_members (r : Reference) : ∀ m ∈ r.members, IsWritten n m.2 := by
  obtain ⟨kind, _ | subType⟩ | name | name := r <;>
    simp only [Reference.members, List.forall_mem_cons, Json.isWritten_string, true_and] <;>
    exact List.forall_mem_nil _

theorem DataType.isWritten_toJson (t : DataType) : IsWritten (n + 1) t.toJson := by
  refine Json.isWritten_object ?_ (List.forall_mem_append.mpr
    ⟨t.reference.isWritten_members, List.forall_mem_singleton.mpr (Json.isWritten_bool t.isArray)⟩)
  obtain ⟨⟨kind, _ | subType⟩ | name | name, array⟩ := t <;> simp [Reference.members]

theorem Parameter.isWritten_toJson (p : Parameter) : IsWritten (n + 2) p.toJson :=
  Json.isWritten_object (by simp) (List.forall_mem_cons.mpr
    ⟨Json.isWritten_string p.name, List.forall_mem_singleton.mpr p.type.isWritten_toJson⟩)

theorem isWritten_responseToJson (body : Option DataType) :
    IsWritten (n + 2) (responseToJson body) := by
  cases body with
  | none => exact Json.isWritten_object List.nodup_nil (List.forall_mem_nil _)
  | some type =>
      exact Json.isWritten_object (by simp) (List.forall_mem_singleton.mpr type.isWritten_toJson)

theorem Operation.isWritten_toJson (o : Operation) : IsWritten (n + 4) o.toJson := by
  refine Json.isWritten_object (by simp) (List.forall_mem_cons.mpr
    ⟨Json.isWritten_array ?_, List.forall_mem_singleton.mpr (Json.isWritten_entries _ ?_)⟩)
  · exact List.forall_mem_map.mpr fun p _ => p.isWritten_toJson
  · exact fun body _ => isWritten_responseToJson body

theorem Service.isWritten_toJson {s : Service} (h : (s.map Operation.name).Nodup) :
    IsWritten (n + 5) (Service.toJson s) := by
  refine Json.isWritten_object ?_ (List.forall_mem_map.mpr fun o _ => o.isWritten_toJson)
  rwa [List.map_map]

theorem Model.isWritten_toJson (m : Model) : IsWritten (n + 2) (Model.toJson m) :=
  Json.isWritten_entries m fun t _ => t.isWritten_toJson

theorem Enumeration.isWritten_toJson (e : Enumeration) : IsWritten (n + 1) (Enumeration.toJson e) :=
  Json.isWritten_array (List.forall_mem_map.mpr fun v _ => Json.isWritten_string v)

end Written

/-- The text of a definition spells it, if no operation of a service comes twice. -/
theorem Definition.isWritten_toJson {d : Definition}
    (h : ∀ s ∈ d.services.values, (s.map Operation.name).Nodup) : IsWritten 7 d.toJson := by
  refine Json.isWritten_object (by simp) (List.forall_mem_cons.mpr ⟨?_, List.forall_mem_cons.mpr
    ⟨?_, List.forall_mem_singleton.mpr ?_⟩⟩)
  · exact Json.isWritten_entries d.services fun s hs => Service.isWritten_toJson (h s hs)
  · exact Json.isWritten_entries d.models fun m _ => Model.isWritten_toJson m
  · exact Json.isWritten_entries d.enums fun e _ => Enumeration.isWritten_toJson e

end ApiProto
