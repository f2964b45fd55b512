/-
  The lines of a document.

  Parts are set apart by one empty line (`spaced`), and a part is never empty itself, so the empty
  sections of a file leave no trace in it.  Lines are `Framed` if single empty lines stand among them
  and none at either end: blocks are, and so are parts of that kind with an empty line between them.
  From this no two empty lines meet in a whole file.
-/
import ApiProto.Proto.Document
import Mathlib.Data.List.Chain

namespace ApiProto.Proto

/-! ## Parts -/

theorem spaced_cons (part : List String) (rest : List (List String)) :
    spaced (part :: rest) = part ++ rest.flatMap fun p => "" :: p := by
  induction rest generalizing part with
  | nil => simp [spaced]
  | cons p ps ih =>
      have hcons : spaced (part :: p :: ps) = part ++ ([""] ++ spaced (p :: ps)) := by
        rw [spaced, List.intercalate_cons_cons, spaced, List.append_assoc]
      rw [hcons, ih p, List.flatMap_cons]
      simp

/-- A section is empty only if it has no part. -/
theorem isEmpty_spaced_map {α : Type} {part : α → List String} (hpart : ∀ x, part x ≠ [])
    (items : List α) : (spaced (items.map part)).isEmpty = items.isEmpty := by
  cases items with
  | nil => rfl
  | cons x rest =>
      rw [List.map_cons, spaced_cons, List.isEmpty_cons, List.isEmpty_eq_false_iff]
      exact List.append_ne_nil_of_left_ne_nil (hpart x) _

/-- Three sections, with the empty lines between them that depend on which of them are empty. -/
theorem spaced_filter_three (s e m : List String) :
    s ++ (if !s.isEmpty && (!e.isEmpty || !m.isEmpty) then [""] else []) ++ e
        ++ (if !e.isEmpty && !m.isEmpty then [""] else []) ++ m
      = spaced ([s, e, m].filter (!·.isEmpty)) := by
  cases s <;> cases e <;> cases m <;> simp [spaced, List.intercalate_cons_cons]

/-! ## Blocks -/

@[simp] theorem bodyLine_eq_empty {width : Nat} {l : String} : bodyLine width l = "" ↔ l = "" := by
  unfold bodyLine
  by_cases h : l = ""
  · simp [h]
  · simp [h, String.append_eq_empty_iff]

theorem block_ne_nil (width : Nat) (header : String) (body : List String) :
    block width header body ≠ [] :=
  List.cons_ne_nil _ _

theorem serviceBlock_ne_nil (width : Nat) (s : String × List Rpc) : serviceBlock width s ≠ [] :=
  block_ne_nil _ _ _

theorem enumBlock_ne_nil (width : Nat) (e : String × List (String × Nat)) :
    enumBlock width e ≠ [] :=
  block_ne_nil _ _ _

theorem messageBlock_ne_nil (width : Nat) (m : String × List Field) : messageBlock width m ≠ [] :=
  block_ne_nil _ _ _

/-! ## Empty lines -/

/-- No two neighbouring lines are empty. -/
def SingleBlanks (ls : List String) : Prop := ls.IsChain fun a b => a ≠ "" ∨ b ≠ ""

/-- Lines with single empty lines among them, none of them at either end. -/
structure Framed (ls : List String) : Prop where
  single : SingleBlanks ls
  head : ∀ l ∈ ls.head?, l ≠ ""
  last : ∀ l ∈ ls.getLast?, l ≠ ""

namespace Framed

theorem nil : Framed [] := ⟨.nil, by simp, by simp⟩

/-- Framed lines may stand behind any others. -/
theorem singleBlanks_append {ls ms : List String} (hl : SingleBlanks ls) (hm : Framed ms) :
    SingleBlanks (ls ++ ms) :=
  List.isChain_append.mpr ⟨hl, hm.single, fun _ _ l hl => Or.inr (hm.head l hl)⟩

theorem append {ls ms : List String} (hl : Framed ls) (hm : Framed ms) : Framed (ls ++ ms) where
  single := singleBlanks_append hl.single hm
  head l h := by
    rw [List.head?_append, Option.mem_def, Option.or_eq_some_iff] at h
    rcases h with h | ⟨-, h⟩
    · exact hl.head l h
    · exact hm.head l h
  last l h := by
    rw [List.getLast?_append, Option.mem_def, Option.or_eq_some_iff] at h
    rcases h with h | ⟨-, h⟩
    · exact hm.last l h
    · exact hl.last l h

theorem append_blank {ls : List String} (hl : Framed ls) : SingleBlanks (ls ++ [""]) :=
  List.isChain_append.mpr ⟨hl.single, .singleton _, fun l h _ _ => Or.inl (hl.last l h)⟩

theorem of_forall_ne {ls : List String} (h : ∀ l ∈ ls, l ≠ "") : Framed ls where
  single := List.Pairwise.isChain (List.pairwise_of_forall_mem_list fun l hl _ _ => Or.inl (h l hl))
  head l hl := h l (List.mem_of_head? hl)
  last l hl := h l (List.mem_of_getLast? hl)

/-- Parts that are not empty stay framed with one empty line between them. -/
theorem spaced {parts : List (List String)} (hne : ∀ p ∈ parts, p ≠ []) (h : ∀ p ∈ parts, Framed p) :
    Framed (spaced parts) := by
  induction parts with
  | nil => exact nil
  | cons part rest ih =>
      have hpart := h part (List.mem_cons_self ..)
      cases rest with
      | nil => simpa [spaced_cons] using hpart
      | cons p ps =>
          have hrest : Framed (Proto.spaced (p :: ps)) :=
            ih (fun q hq => hne q (List.mem_cons_of_mem _ hq))
              fun q hq => h q (List.mem_cons_of_mem _ hq)
          have hcons : Proto.spaced (part :: p :: ps) = part ++ "" :: Proto.spaced (p :: ps) := by
            rw [spaced_cons, spaced_cons, List.flatMap_cons, List.cons_append]
          have hrest_ne : Proto.spaced (p :: ps) ≠ [] := by
            rw [spaced_cons]
            exact List.append_ne_nil_of_left_ne_nil (hne p (by simp)) _
          have hpart_ne : part ≠ [] := hne part (List.mem_cons_self ..)
          -- the empty line goes with the part before it
          rw [hcons, ← List.singleton_append, ← List.append_assoc]
          refine ⟨singleBlanks_append hpart.append_blank hrest, fun l hl => ?_, fun l hl => ?_⟩
          · rw [List.append_assoc, List.head?_append_of_ne_nil _ hpart_ne] at hl
            exact hpart.head l hl
          · rw [List.getLast?_append_of_ne_nil _ hrest_ne] at hl
            exact hrest.last l hl

/-- A block is framed if its body has single empty lines only. -/
theorem block {body : List String} (width : Nat) (header : String) (h : SingleBlanks body) :
    Framed (block width header body) := by
  have hheader : header ++ " \x7b" ≠ "" := by simp
  have hbody : SingleBlanks (body.map (bodyLine width)) :=
    (List.isChain_map _).mpr (h.imp fun a b hab => by simpa using hab)
  have hclose : Framed ["\x7d"] := of_forall_ne (by simp)
  refine ⟨List.isChain_cons.mpr ⟨fun _ _ => Or.inl hheader, singleBlanks_append hbody hclose⟩,
    fun l hl => ?_, fun l hl => ?_⟩
  · cases hl
    exact hheader
  · rw [Proto.block, ← List.cons_append, List.getLast?_append_of_ne_nil _ (by simp)] at hl
    exact hclose.last l hl

end Framed

theorem framed_serviceBlock (width : Nat) (s : String × List Rpc) : Framed (serviceBlock width s) := by
  refine Framed.block width _ (Framed.spaced (fun p hp => ?_) fun p hp => ?_).single
  · obtain ⟨r, -, rfl⟩ := List.mem_map.mp hp
    exact List.cons_ne_nil _ _
  · obtain ⟨r, -, rfl⟩ := List.mem_map.mp hp
    exact Framed.of_forall_ne (by simp [Rpc.line])

theorem framed_enumBlock (width : Nat) (e : String × List (String × Nat)) :
    Framed (enumBlock width e) := by
  refine Framed.block width _ (Framed.of_forall_ne fun l hl => ?_).single
  obtain ⟨⟨value, number⟩, -, rfl⟩ := List.mem_map.mp hl
  simp

theorem framed_messageBlock (width : Nat) (m : String × List Field) :
    Framed (messageBlock width m) := by
  refine Framed.block width _ (Framed.of_forall_ne fun l hl => ?_).single
  obtain ⟨f, -, rfl⟩ := List.mem_map.mp hl
  simp [Field.line]

theorem framed_wrapperBlock (width : Nat) (m : Wrapper) : Framed (wrapperBlock width m) :=
  Framed.block width _ (Framed.of_forall_ne (by simp)).single

theorem framed_group (width : Nat) (group : List Wrapper) :
    Framed (group.flatMap (wrapperBlock width)) := by
  induction group with
  | nil => exact Framed.nil
  | cons m rest ih =>
      rw [List.flatMap_cons]
      exact (framed_wrapperBlock width m).append ih

theorem framed_section {α : Type} {part : α → List String} (hne : ∀ x, part x ≠ [])
    (h : ∀ x, Framed (part x)) (items : List α) : Framed (spaced (items.map part)) := by
  refine Framed.spaced (fun p hp => ?_) fun p hp => ?_
  · obtain ⟨x, -, rfl⟩ := List.mem_map.mp hp
    exact hne x
  · obtain ⟨x, -, rfl⟩ := List.mem_map.mp hp
    exact h x

theorem framed_sections (width : Nat) (doc : Document) :
    Framed (spaced ((doc.sections width).filter (!·.isEmpty))) := by
  refine Framed.spaced (fun p hp => ?_) fun p hp => ?_
  · obtain ⟨-, hp⟩ := List.mem_filter.mp hp
    simpa using hp
  · obtain ⟨hp, -⟩ := List.mem_filter.mp hp
    rw [Document.sections, List.mem_cons, List.mem_cons, List.mem_singleton] at hp
    rcases hp with rfl | rfl | rfl
    · exact framed_section (serviceBlock_ne_nil width) (framed_serviceBlock width) doc.services
    · exact framed_section (enumBlock_ne_nil width) (framed_enumBlock width) doc.enums
    · exact framed_section (messageBlock_ne_nil width) (framed_messageBlock width) doc.messages

theorem framed_wrapperLines {doc : Document} (hgroups : ∀ g ∈ doc.wrappers, g ≠ []) (width : Nat) :
    Framed (doc.wrapperLines width) := by
  refine Framed.spaced (fun p hp => ?_) fun p hp => ?_
  · obtain ⟨group, hgroup, rfl⟩ := List.mem_map.mp hp
    obtain ⟨m, rest, rfl⟩ := List.exists_cons_of_ne_nil (hgroups group hgroup)
    exact List.append_ne_nil_of_left_ne_nil (block_ne_nil _ _ _) _
  · obtain ⟨group, -, rfl⟩ := List.mem_map.mp hp
    exact framed_group width group

/-- Without a section nothing is declared but, perhaps, wrapper messages. -/
theorem eq_nil_of_sections_eq_nil {width : Nat} {doc : Document}
    (h : spaced ((doc.sections width).filter (!·.isEmpty)) = []) :
    doc.services = [] ∧ doc.hasTypes = false := by
  have hS := isEmpty_spaced_map (serviceBlock_ne_nil width) doc.services
  have hE := isEmpty_spaced_map (enumBlock_ne_nil width) doc.enums
  have hM := isEmpty_spaced_map (messageBlock_ne_nil width) doc.messages
  rw [Document.sections, ← spaced_filter_three, hS, hE, hM] at h
  simp only [List.append_eq_nil_iff] at h
  obtain ⟨⟨⟨⟨hs, -⟩, he⟩, -⟩, hm⟩ := h
  rw [hs, List.isEmpty_nil, eq_comm, List.isEmpty_iff] at hS
  rw [he, List.isEmpty_nil, eq_comm] at hE
  rw [hm, List.isEmpty_nil, eq_comm] at hM
  exact ⟨hS, by rw [Document.hasTypes, hE, hM]; rfl⟩

/-- No two empty lines meet in a file whose wrapper messages come from its services. -/
theorem singleBlanks_lines (width : Nat) {doc : Document} (hgroups : ∀ g ∈ doc.wrappers, g ≠ [])
    (hwrappers : doc.services = [] → doc.wrappers = []) : SingleBlanks (doc.lines width) := by
  have hheader : SingleBlanks ["syntax = \"proto3\";", "", "package " ++ doc.package ++ ";", ""] := by
    simp [SingleBlanks]
  have hsections := framed_sections width doc
  refine Framed.singleBlanks_append ?_ (framed_wrapperLines hgroups width)
  by_cases hnil : spaced ((doc.sections width).filter (!·.isEmpty)) = []
  · -- the header ends with an empty line, so none may follow it
    obtain ⟨hs, ht⟩ := eq_nil_of_sections_eq_nil hnil
    rw [hnil, ht, hwrappers hs]
    simpa using hheader
  · -- the last line before the empty one closes a block
    have hwritten := Framed.singleBlanks_append hheader hsections
    split
    · refine List.isChain_append.mpr ⟨hwritten, .singleton _, fun l hl _ _ => Or.inl ?_⟩
      rw [List.getLast?_append_of_ne_nil _ hnil] at hl
      exact hsections.last l hl
    · rwa [List.append_nil]

theorem not_infix_of_singleBlanks {ls : List String} (h : SingleBlanks ls) : ¬ ["", ""] <:+: ls := by
  intro hinfix
  have hpair : SingleBlanks ["", ""] := h.infix hinfix
  simp [SingleBlanks] at hpair

end ApiProto.Proto
