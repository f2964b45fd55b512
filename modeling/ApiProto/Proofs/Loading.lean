/-
  Loading a definition accepts its shape, and a wrong shape comes before a wrong type.
-/
import ApiProto.LoadError
import ApiProto.Proofs.Reading.Compact
import ApiProto.Proofs.Reading.Drafts
import ApiProto.Proofs.Shape

namespace ApiProto.Definition

open ApiProto.Json (IsTextOf)
open ApiProto.Draft (IsRejected)

/-! ## The draft of a text -/

theorem isSpelled_of_isTextOf {v : Json} {source : String} (h : IsTextOf v source) :
    v.IsSpelled := by
  obtain @⟨_, t, _, _, hv, _, _⟩ := h
  exact ⟨t, hv⟩

/-- A text of the wrong shape fails as such. -/
theorem load_of_not_isDefinition {v : Json} {source : String} (h : IsTextOf v source)
    (hdepth : v.depth ≤ Json.depthLimit) (hshape : ¬ v.isDefinition) :
    ∃ e, load source = .error e ∧ e.code = .unexpectedStructure := by
  have hnone : Draft.draftOf? v = none := by
    rwa [← Draft.isSome_draftOf?, Option.not_isSome_iff_eq_none] at hshape
  obtain ⟨fault, hfault, hcause⟩ := Json.decode_eq_error h hdepth Draft.follows_draft hnone
  refine ⟨.ofFault fault source, ?_, ?_⟩
  · rw [load, Draft.read, hfault]
  · rw [LoadError.ofFault, LoadError.code, if_pos hcause]

/-- A text of the right shape has a draft with the types that it declares. -/
theorem load_of_isDefinition {v : Json} {source : String} (h : IsTextOf v source)
    (hdepth : v.depth ≤ Json.depthLimit) (hshape : v.isDefinition) :
    ∃ d : Draft, d.types.map Prod.snd = v.declaredTypes ∧
      (∀ e, d.elaborate = .error e → load source = .error (.schema e)) ∧
      ∀ r, d.elaborate = .ok r → load source = .ok r := by
  obtain ⟨d, hd⟩ := Option.isSome_iff_exists.mp (Draft.isSome_draftOf? v ▸ hshape)
  have hread : Draft.read source = .ok d := Json.decode_eq_ok h hdepth Draft.follows_draft hd
  refine ⟨d, (Draft.types_of_draftOf? (isSpelled_of_isTextOf h) hd).symm, fun e he => ?_,
    fun r hr => ?_⟩
  · simp only [load, hread, he]
  · simp only [load, hread, hr]

/-- Errors of types have the codes of types. -/
theorem code_schema (e : SchemaError) :
    (LoadError.schema e).code.text ∈ ["E100", "E101", "E102"] := by
  obtain ⟨fault, place, property⟩ := e
  cases fault <;> simp [LoadError.code, TypeFault.code, ErrorCode.text]

/-- A text fails by its shape, or by its types, or is loaded; which of these depends on its value
alone. -/
theorem load_cases {v : Json} {source : String} (h : IsTextOf v source)
    (hdepth : v.depth ≤ Json.depthLimit) :
    (¬ v.isDefinition ∧ ∃ e, load source = .error e ∧ e.code = .unexpectedStructure) ∨
      (v.isDefinition ∧ (∃ t ∈ v.declaredTypes, IsRejected t) ∧
        ∃ e, load source = .error (.schema e)) ∨
      (v.isDefinition ∧ (∀ t ∈ v.declaredTypes, ¬ IsRejected t) ∧ ∃ d, load source = .ok d) := by
  by_cases hshape : v.isDefinition
  · obtain ⟨d, htypes, herror, hok⟩ := load_of_isDefinition h hdepth hshape
    have hrejected : (∃ t ∈ v.declaredTypes, IsRejected t) ↔ ∃ e, d.elaborate = .error e := by
      rw [Draft.exists_elaborate_eq_error_iff, ← htypes]
      simp only [List.mem_map, exists_exists_and_eq_and]
    cases helaborate : d.elaborate with
    | error e =>
        exact .inr (.inl ⟨hshape, hrejected.mpr ⟨e, helaborate⟩, e, herror e helaborate⟩)
    | ok r =>
        refine .inr (.inr ⟨hshape, fun t ht htr => ?_, r, hok r helaborate⟩)
        obtain ⟨e, he⟩ := hrejected.mp ⟨t, ht, htr⟩
        rw [helaborate] at he
        cases he
  · exact .inl ⟨hshape, load_of_not_isDefinition h hdepth hshape⟩

/-- **A text is accepted exactly if it has the shape of a definition and every type in it is
understood.**  A wrong shape is reported with its own code, whatever the types are; a type that is
not understood is reported only if the shape is right. -/
theorem load_classified {v : Json} {source : String} (h : IsTextOf v source)
    (hdepth : v.depth ≤ Json.depthLimit) :
    ((∃ e, load source = .error e ∧ e.code.text = "E002") ↔ ¬ v.isDefinition) ∧
      ((∃ e, load source = .error (.schema e) ∧
          (LoadError.schema e).code.text ∈ ["E100", "E101", "E102"]) ↔
        v.isDefinition ∧ ∃ t ∈ v.declaredTypes, IsRejected t) ∧
      ((∃ d, load source = .ok d) ↔ v.isDefinition ∧ ∀ t ∈ v.declaredTypes, ¬ IsRejected t) := by
  have hschema : ∀ e, (LoadError.schema e).code.text ≠ "E002" := by
    intro e heq
    have hmem := code_schema e
    rw [heq] at hmem
    revert hmem
    decide
  -- in each of the three cases one statement holds on both sides and the others on neither
  rcases load_cases h hdepth with ⟨hshape, e, hload, hcode⟩ | ⟨hshape, hsome, e, hload⟩ |
    ⟨hshape, hnone, d, hload⟩
  · have htext : e.code.text = "E002" := by
      rw [hcode]
      rfl
    refine ⟨iff_of_true ⟨e, hload, htext⟩ hshape, iff_of_false ?_ fun h => hshape h.1,
      iff_of_false ?_ fun h => hshape h.1⟩
    · rintro ⟨e', he', -⟩
      cases hload.symm.trans he'
      exact hschema e' htext
    · rintro ⟨d, hd⟩
      cases hload.symm.trans hd
  · refine ⟨iff_of_false ?_ (not_not.mpr hshape),
      iff_of_true ⟨e, hload, code_schema e⟩ ⟨hshape, hsome⟩, iff_of_false ?_ ?_⟩
    · rintro ⟨e', he', htext⟩
      cases hload.symm.trans he'
      exact hschema e htext
    · rintro ⟨d, hd⟩
      cases hload.symm.trans hd
    · rintro ⟨-, hnone⟩
      obtain ⟨t, ht, htr⟩ := hsome
      exact hnone t ht htr
  · refine ⟨iff_of_false ?_ (not_not.mpr hshape), iff_of_false ?_ ?_,
      iff_of_true ⟨d, hload⟩ ⟨hshape, hnone⟩⟩
    · rintro ⟨e, he, -⟩
      cases hload.symm.trans he
    · rintro ⟨e, he, -⟩
      cases hload.symm.trans he
    · rintro ⟨-, t, ht, htr⟩
      exact hnone t ht htr

/-- A model with one property of the given type, beside the given enumerations. -/
def petsWith (type enums : Json) : Json :=
  .object [("models", .object [("Pet", .object [("id", type)])]), ("enums", enums)]

theorem isWritten_petsWith {type enums : Json} (htype : Json.IsWritten 1 type)
    (henums : Json.IsWritten 3 enums) : Json.IsWritten 4 (petsWith type enums) := by
  have hpet : Json.IsWritten 2 (.object [("id", type)]) :=
    Json.isWritten_object (by simp) (List.forall_mem_singleton.mpr htype)
  have hmodels : Json.IsWritten 3 (.object [("Pet", .object [("id", type)])]) :=
    Json.isWritten_object (by simp) (List.forall_mem_singleton.mpr hpet)
  exact Json.isWritten_object (by simp)
    (List.forall_mem_cons.mpr ⟨hmodels, List.forall_mem_singleton.mpr henums⟩)

/-- Enumerations that stand in an array are reported before a type without members; that type is
reported once the array is an object, and with a type in its place the text is loaded. -/
theorem load_classified_petsWith :
    (∃ e, load "\x7b\"models\":\x7b\"Pet\":\x7b\"id\":\x7b\x7d\x7d\x7d,\"enums\":[]\x7d" = .error e ∧
        e.code.text = "E002") ∧
      (∃ e, load "\x7b\"models\":\x7b\"Pet\":\x7b\"id\":\x7b\x7d\x7d\x7d,\"enums\":\x7b\x7d\x7d"
          = .error (.schema e) ∧ (LoadError.schema e).code.text ∈ ["E100", "E101", "E102"]) ∧
      ∃ d, load "\x7b\"models\":\x7b\"Pet\":\x7b\"id\":\x7b\"enum\":\"K\"\x7d\x7d\x7d,\"enums\":\x7b\x7d\x7d"
          = .ok d := by
  have hempty : Json.IsWritten 1 (.object []) :=
    Json.isWritten_object List.nodup_nil (List.forall_mem_nil _)
  have henum : Json.IsWritten 1 (.object [("enum", .string "K")]) :=
    Json.isWritten_object (by simp) (List.forall_mem_singleton.mpr (Json.isWritten_string "K"))
  have hnone : Json.IsWritten 3 (.object []) :=
    Json.isWritten_object List.nodup_nil (List.forall_mem_nil _)
  have hshape := isWritten_petsWith hempty (Json.isWritten_array (List.forall_mem_nil _))
  have htype := isWritten_petsWith hempty hnone
  have hgood := isWritten_petsWith henum hnone
  refine ⟨(load_classified hshape.isTextOf (by decide)).1.mpr (by decide),
    (load_classified htype.isTextOf (by decide)).2.1.mpr ⟨by decide, .object [], ?_, .undecided, rfl⟩,
    (load_classified hgood.isTextOf (by decide)).2.2.mpr ⟨by decide, ?_⟩⟩
  · exact List.mem_singleton.mpr rfl
  · refine List.forall_mem_singleton.mpr ?_
    rintro ⟨fault, hfault⟩
    cases hfault

end ApiProto.Definition
