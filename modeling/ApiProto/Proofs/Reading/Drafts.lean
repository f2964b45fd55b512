/-
  A draft is read from a text exactly if the value of the text holds one.

  Parameters, responses, operations and definitions are records.  For each there is the list of its
  slots, that its view is what the slots come to, and that it is read so.
-/
import ApiProto.Draft.View
import ApiProto.Proofs.Reading.Records

namespace ApiProto.Draft

open ApiProto.Json

/-! ## Parameters -/

/-- The slots of a parameter. -/
def parameterSlots : List (Slot ParameterParts) :=
  [⟨"name", (·.name), fun p v => { p with name := some v }, Decoder.text, textOf?⟩,
    ⟨"dataType", (·.type), fun p v => { p with type := some v }, Decoder.value, some⟩]

theorem independent_parameterSlots : parameterSlots.Pairwise Slot.Independent := by
  refine List.pairwise_pair.mpr ⟨by decide, ?_, ?_, ?_⟩ <;> (intros; rfl)

theorem parameterOf?_eq : parameterOf? = objectOf? fun ms =>
    fillRecord parameterSlots ms {} >>= fun p => p.finish.toOption := by
  refine congrArg objectOf? (funext fun ms => ?_)
  simp only [parameterSlots, fillRecord, Slot.set]
  cases memberOf? textOf? "name" ms with
  | none => rfl
  | some name =>
      cases memberOf? some "dataType" ms with
      | none => rfl
      | some type => cases name <;> cases type <;> rfl

theorem follows_parameter : parameter.Follows parameterOf? := by
  have hfollows : ∀ f ∈ parameterSlots, f.decoder.Follows f.view :=
    List.forall_mem_cons.mpr ⟨follows_text, List.forall_mem_singleton.mpr follows_value⟩
  have hempty : ∀ f ∈ parameterSlots, f.seen {} = none :=
    List.forall_mem_cons.mpr ⟨rfl, List.forall_mem_singleton.mpr rfl⟩
  have hfinish : ∀ (p : ParameterParts) cause, p.finish = .error cause → cause.isShape := by
    rintro ⟨_ | name, type⟩ cause h
    · cases h
      rfl
    · cases h
  rw [parameterOf?_eq]
  exact follows_record independent_parameterSlots hfollows hempty hfinish

/-! ## Responses -/

/-- The only slot of a response. -/
def responseSlots : List (Slot (Option (Option Json))) :=
  [⟨"dataType", id, fun _ v => some v, Decoder.optional Decoder.value, optionalOf? some⟩]

theorem responseOf?_eq : responseOf? = objectOf? fun ms =>
    fillRecord responseSlots ms none >>= fun p => some (p.getD none) := by
  refine congrArg objectOf? (funext fun ms => ?_)
  simp only [responseSlots, fillRecord, Slot.set]
  cases memberOf? (optionalOf? some) "dataType" ms with
  | none => rfl
  | some type => cases type <;> rfl

theorem follows_response : response.Follows responseOf? := by
  have hfollows : ∀ f ∈ responseSlots, f.decoder.Follows f.view :=
    List.forall_mem_singleton.mpr (follows_optional follows_value)
  have hempty : ∀ f ∈ responseSlots, f.seen none = none := List.forall_mem_singleton.mpr rfl
  rw [responseOf?_eq]
  exact follows_record (List.pairwise_singleton _ _) hfollows hempty fun _ _ h => by cases h

/-! ## Operations -/

/-- The slots of an operation. -/
def operationSlots : List (Slot OperationParts) :=
  [⟨"parameters", (·.parameters), fun p v => { p with parameters := some v },
      Decoder.list parameter, listOf? parameterOf?⟩,
    ⟨"responses", (·.responses), fun p v => { p with responses := some v },
      Decoder.dict .map response, dictOf? responseOf?⟩]

theorem independent_operationSlots : operationSlots.Pairwise Slot.Independent := by
  refine List.pairwise_pair.mpr ⟨by decide, ?_, ?_, ?_⟩ <;> (intros; rfl)

theorem operationOf?_eq : operationOf? = objectOf? fun ms =>
    fillRecord operationSlots ms {} >>= fun p => p.finish.toOption := by
  refine congrArg objectOf? (funext fun ms => ?_)
  simp only [operationSlots, fillRecord, Slot.set]
  cases memberOf? (listOf? parameterOf?) "parameters" ms with
  | none => rfl
  | some parameters =>
      cases memberOf? (dictOf? responseOf?) "responses" ms with
      | none => rfl
      | some responses => cases parameters <;> cases responses <;> rfl

theorem follows_operation : operation.Follows operationOf? := by
  have hfollows : ∀ f ∈ operationSlots, f.decoder.Follows f.view :=
    List.forall_mem_cons.mpr
      ⟨follows_list follows_parameter, List.forall_mem_singleton.mpr (follows_dict follows_response)⟩
  have hempty : ∀ f ∈ operationSlots, f.seen {} = none :=
    List.forall_mem_cons.mpr ⟨rfl, List.forall_mem_singleton.mpr rfl⟩
  rw [operationOf?_eq]
  exact follows_record independent_operationSlots hfollows hempty fun _ _ h => by cases h

/-! ## Definitions -/

/-- The slots of a definition. -/
def draftSlots : List (Slot Parts) :=
  [⟨"services", (·.services), fun p v => { p with services := some v },
      Decoder.dict .map (Decoder.dict .map operation), dictOf? (dictOf? operationOf?)⟩,
    ⟨"models", (·.models), fun p v => { p with models := some v },
      Decoder.dict .map (Decoder.dict .map Decoder.value), dictOf? (dictOf? some)⟩,
    ⟨"enums", (·.enums), fun p v => { p with enums := some v },
      Decoder.dict .map (Decoder.list Decoder.text), dictOf? (listOf? textOf?)⟩]

theorem independent_draftSlots : draftSlots.Pairwise Slot.Independent := by
  refine .cons (List.forall_mem_cons.mpr ⟨?_, List.forall_mem_singleton.mpr ?_⟩)
    (List.pairwise_pair.mpr ?_) <;> refine ⟨by decide, ?_, ?_, ?_⟩ <;> (intros; rfl)

theorem draftOf?_eq : draftOf? = objectOf? fun ms =>
    fillRecord draftSlots ms {} >>= fun p => p.finish.toOption := by
  refine congrArg objectOf? (funext fun ms => ?_)
  simp only [draftSlots, fillRecord, Slot.set]
  cases memberOf? (dictOf? (dictOf? operationOf?)) "services" ms with
  | none => rfl
  | some services =>
      cases memberOf? (dictOf? (dictOf? some)) "models" ms with
      | none => rfl
      | some models =>
          cases memberOf? (dictOf? (listOf? textOf?)) "enums" ms with
          | none => rfl
          | some enums => cases services <;> cases models <;> cases enums <;> rfl

theorem follows_draft : draft.Follows draftOf? := by
  have hfollows : ∀ f ∈ draftSlots, f.decoder.Follows f.view :=
    List.forall_mem_cons.mpr ⟨follows_dict (follows_dict follows_operation),
      List.forall_mem_cons.mpr ⟨follows_dict (follows_dict follows_value),
        List.forall_mem_singleton.mpr (follows_dict (follows_list follows_text))⟩⟩
  have hempty : ∀ f ∈ draftSlots, f.seen {} = none :=
    List.forall_mem_cons.mpr ⟨rfl, List.forall_mem_cons.mpr ⟨rfl, List.forall_mem_singleton.mpr rfl⟩⟩
  rw [draftOf?_eq]
  exact follows_record independent_draftSlots hfollows hempty fun _ _ h => by cases h

end ApiProto.Draft
