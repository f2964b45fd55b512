/-
  Blocks that are read back from a text.

  Behind the header of a file stand blocks and empty lines.  Without the empty lines these are its
  declarations, one block behind the other (`nonblank_body`).  A block ends with a closing brace on a
  line of its own.  No other line of it is one, even without indentation, since a member has more in
  it than spaces and closing braces.  So a text gives its declarations away
  (`declarations_eq_of_text_eq`).
-/
import ApiProto.Proofs.LineText

namespace ApiProto.Proto

/-! ## Declarations -/

/-- A declaration: the header of a block, and the lines of its body that are not empty. -/
@[ext] structure Declaration where
  header : String
  members : List String

namespace Declaration

/-- The block of a declaration without empty lines. -/
def lines (width : Nat) (d : Declaration) : List String := block width d.header d.members

/-- No line break stands in a line, but something else than spaces and closing braces. -/
structure LegibleLine (l : String) : Prop where
  unbroken : '\n' ∉ l.toList
  solid : ∃ c ∈ l.toList, c ≠ ' ' ∧ c ≠ '\x7d'

/-- No line break stands in the header, and all members are legible. -/
structure Legible (d : Declaration) : Prop where
  header : '\n' ∉ d.header.toList
  members : ∀ m ∈ d.members, LegibleLine m

end Declaration

namespace Document

/-- What a file declares, in the order in which it stands there. -/
def declarations (doc : Document) : List Declaration :=
  (doc.services.map fun s => ⟨"service " ++ s.1, s.2.map Rpc.line⟩)
    ++ (doc.enums.map fun e =>
      ⟨"enum " ++ e.1, e.2.map fun v => v.1 ++ " = " ++ toString v.2 ++ ";"⟩)
    ++ (doc.messages.map fun m => ⟨"message " ++ m.1, m.2.map Field.line⟩)
    ++ (doc.wrappers.flatten.map fun w => ⟨"message " ++ w.name, [w.kind.name ++ " value = 1;"]⟩)

end Document

/-! ## Lines that are not empty -/

/-- The lines that are not empty. -/
def nonblank (ls : List String) : List String := ls.filter fun l => l ≠ ""

theorem nonblank_append (ls ms : List String) : nonblank (ls ++ ms) = nonblank ls ++ nonblank ms :=
  List.filter_append ls ms

theorem nonblank_flatMap {α : Type} (items : List α) (f : α → List String) :
    nonblank (items.flatMap f) = items.flatMap fun x => nonblank (f x) :=
  List.filter_flatMap

theorem nonblank_map {α : Type} {f : α → String} (h : ∀ x, f x ≠ "") (items : List α) :
    nonblank (items.map f) = items.map f :=
  List.filter_eq_self.mpr (List.forall_mem_map.mpr fun x _ => decide_eq_true (h x))

/-- Without empty lines, parts stand one behind the other. -/
theorem nonblank_spaced (parts : List (List String)) :
    nonblank (spaced parts) = nonblank parts.flatten := by
  cases parts with
  | nil => rfl
  | cons part rest =>
      have hrest : nonblank (rest.flatMap fun p => "" :: p) = nonblank rest.flatten := by
        rw [nonblank_flatMap, nonblank, List.filter_flatten]
        rfl
      rw [spaced_cons, List.flatten_cons, nonblank_append, nonblank_append, hrest]

theorem nonblank_block (width : Nat) (header : String) (body : List String) :
    nonblank (block width header body) = block width header (nonblank body) := by
  have hheader : nonblank [header ++ " \x7b"] = [header ++ " \x7b"] := by simp [nonblank]
  have hbody : nonblank (body.map (bodyLine width)) = (nonblank body).map (bodyLine width) := by
    rw [nonblank, List.filter_map]
    refine congrArg _ (List.filter_congr fun l _ => ?_)
    simp
  rw [block, ← List.singleton_append, nonblank_append, nonblank_append, hheader, hbody]
  rfl

/-! ## The lines of declarations -/

theorem Rpc.line_ne_empty (r : Rpc) : r.line ≠ "" := by simp [Rpc.line]

theorem Field.line_ne_empty (f : Field) : f.line ≠ "" := by simp [Field.line]

theorem nonblank_serviceBlock (width : Nat) (s : String × List Rpc) :
    nonblank (serviceBlock width s) = block width ("service " ++ s.1) (s.2.map Rpc.line) := by
  have hbody : (s.2.map fun r => [r.line]).flatten = s.2.map Rpc.line := List.map_eq_flatMap.symm
  rw [serviceBlock, nonblank_block, nonblank_spaced, hbody, nonblank_map Rpc.line_ne_empty]

theorem nonblank_enumBlock (width : Nat) (e : String × List (String × Nat)) :
    nonblank (enumBlock width e) = enumBlock width e := by
  rw [enumBlock, nonblank_block, nonblank_map (by simp)]

theorem nonblank_messageBlock (width : Nat) (m : String × List Field) :
    nonblank (messageBlock width m) = messageBlock width m := by
  rw [messageBlock, nonblank_block, nonblank_map Field.line_ne_empty]

theorem nonblank_wrapperBlock (width : Nat) (m : Wrapper) :
    nonblank (wrapperBlock width m) = wrapperBlock width m := by
  have hbody : nonblank [m.kind.name ++ " value = 1;"] = [m.kind.name ++ " value = 1;"] := by
    simp [nonblank]
  rw [wrapperBlock, nonblank_block, hbody]

/-- Blocks without empty lines stand one behind the other. -/
theorem nonblank_blocks {α : Type} {part : α → List String} {declaration : α → Declaration}
    {width : Nat} (h : ∀ x, nonblank (part x) = (declaration x).lines width) (items : List α) :
    nonblank (items.flatMap part) = (items.map declaration).flatMap (·.lines width) := by
  rw [nonblank_flatMap, List.flatMap_map]
  exact List.flatMap_congr fun x _ => h x

/-- Behind the header stand the blocks of the declarations, if empty lines are left out. -/
theorem Document.nonblank_body (width : Nat) (doc : Document) :
    nonblank (doc.body width) = doc.declarations.flatMap (·.lines width) := by
  have hsections : nonblank (spaced ((doc.sections width).filter (!·.isEmpty)))
      = nonblank (doc.services.flatMap (serviceBlock width))
        ++ nonblank (doc.enums.flatMap (enumBlock width))
        ++ nonblank (doc.messages.flatMap (messageBlock width)) := by
    rw [nonblank_spaced, List.flatten_filter_not_isEmpty, Document.sections]
    simp only [List.flatten_cons, List.flatten_nil, nonblank_append, nonblank_spaced,
      List.append_nil, List.append_assoc]
    rfl
  have hblank : nonblank (if doc.hasTypes || !doc.wrappers.isEmpty then [""] else []) = [] := by
    split <;> rfl
  have hwrappers : nonblank (doc.wrapperLines width)
      = nonblank (doc.wrappers.flatten.flatMap (wrapperBlock width)) := by
    rw [← List.flatMap_id, List.flatMap_assoc, Document.wrapperLines, nonblank_spaced]
    rfl
  rw [Document.body, nonblank_append, nonblank_append, hblank, hwrappers, hsections,
    Document.declarations, List.flatMap_append, List.flatMap_append, List.flatMap_append,
    List.append_nil]
  congr
  · exact nonblank_blocks (nonblank_serviceBlock width) doc.services
  · exact nonblank_blocks (nonblank_enumBlock width) doc.enums
  · exact nonblank_blocks (nonblank_messageBlock width) doc.messages
  · exact nonblank_blocks (nonblank_wrapperBlock width) doc.wrappers.flatten

/-! ## Blocks that are told apart -/

theorem bodyLine_injective (width : Nat) : Function.Injective (bodyLine width) := by
  intro l m h
  by_cases hl : l = ""
  · rw [bodyLine_eq_empty.mpr hl, eq_comm, bodyLine_eq_empty] at h
    rw [hl, h]
  · have hm : m ≠ "" := fun hm => hl (bodyLine_eq_empty.mp (h.trans (bodyLine_eq_empty.mpr hm)))
    rw [bodyLine, bodyLine, if_neg hl, if_neg hm] at h
    exact (String.append_right_inj (Writer.spaces width)).mp h

theorem mem_bodyLine {width : Nat} {l : String} {c : Char} (hc : c ≠ ' ') :
    c ∈ (bodyLine width l).toList ↔ c ∈ l.toList := by
  unfold bodyLine
  split
  · simp [*]
  · simp [Writer.spaces, hc]

namespace Declaration

/-- The lines of a declaration but the one that ends it. -/
def opening (width : Nat) (d : Declaration) : List String :=
  (d.header ++ " \x7b") :: d.members.map (bodyLine width)

theorem lines_eq_opening (width : Nat) (d : Declaration) :
    d.lines width = d.opening width ++ ["\x7d"] := rfl

theorem opening_injective (width : Nat) : Function.Injective (opening width) := by
  intro d d' h
  obtain ⟨hheader, hmembers⟩ := List.cons.inj h
  exact Declaration.ext ((String.append_left_inj _).mp hheader)
    (List.map_injective_iff.mpr (bodyLine_injective width) hmembers)

/-- No other line of a block is a lone brace, however it is indented. -/
theorem Legible.end_notMem {d : Declaration} (h : d.Legible) (width : Nat) :
    "\x7d" ∉ d.opening width := by
  intro hmem
  rcases List.mem_cons.mp hmem with hheader | hmember
  · -- a space stands before the opening brace
    have hspace : ' ' ∈ "\x7d".toList := by
      rw [hheader]
      simp
    simp at hspace
  · -- indentation brings in spaces only
    obtain ⟨m, hm, hm'⟩ := List.mem_map.mp hmember
    obtain ⟨c, hc, hspace, hbrace⟩ := (h.members m hm).solid
    rw [← mem_bodyLine hspace, hm'] at hc
    exact hbrace (List.mem_singleton.mp hc)

theorem Legible.newline_notMem {d : Declaration} (h : d.Legible) {width : Nat} {l : String}
    (hl : l ∈ d.lines width) : '\n' ∉ l.toList := by
  rw [lines_eq_opening, List.mem_append, List.mem_singleton, opening, List.mem_cons] at hl
  rcases hl with (rfl | hl) | rfl
  · exact newline_notMem_append h.header (by decide)
  · obtain ⟨m, hm, rfl⟩ := List.mem_map.mp hl
    rw [mem_bodyLine (by decide)]
    exact (h.members m hm).unbroken
  · decide

/-- Declarations can be told apart by the lines that end them. -/
theorem eq_of_flatMap_lines_eq (width : Nat) {ds ds' : List Declaration}
    (h : ∀ d ∈ ds, d.Legible) (h' : ∀ d ∈ ds', d.Legible)
    (heq : ds.flatMap (·.lines width) = ds'.flatMap (·.lines width)) : ds = ds' := by
  have hopenings : ds.map (opening width) = ds'.map (opening width) := by
    refine flatMap_append_mark_inj
      (List.forall_mem_map.mpr fun d hd => (h d hd).end_notMem width)
      (List.forall_mem_map.mpr fun d hd => (h' d hd).end_notMem width) ?_
    rwa [List.flatMap_map, List.flatMap_map]
  exact List.map_injective_iff.mpr (opening_injective width) hopenings

end Declaration

namespace Document

theorem newline_notMem_body {width : Nat} {doc : Document} (h : ∀ d ∈ doc.declarations, d.Legible) :
    ∀ l ∈ doc.body width, '\n' ∉ l.toList := by
  intro l hl
  -- an empty line comes from the layout, any other from a declaration
  by_cases hempty : l = ""
  · simp [hempty]
  · have hmem : l ∈ nonblank (doc.body width) := List.mem_filter.mpr ⟨hl, decide_eq_true hempty⟩
    rw [nonblank_body] at hmem
    obtain ⟨d, hd, hl⟩ := List.mem_flatMap.mp hmem
    exact (h d hd).newline_notMem hl

/-- Two files of one package have the same text only if they declare the same. -/
theorem declarations_eq_of_text_eq {width : Nat} {doc doc' : Document}
    (hpackage : doc.package = doc'.package) (h : ∀ d ∈ doc.declarations, d.Legible)
    (h' : ∀ d ∈ doc'.declarations, d.Legible) (heq : doc.text width = doc'.text width) :
    doc.declarations = doc'.declarations := by
  rw [text_eq_header_body, text_eq_header_body, header, header, hpackage] at heq
  have hbody : doc.body width = doc'.body width :=
    linesText_inj (newline_notMem_body h) (newline_notMem_body h')
      ((String.append_right_inj _).mp heq)
  refine Declaration.eq_of_flatMap_lines_eq width h h' ?_
  rw [← nonblank_body width doc, ← nonblank_body width doc', hbody]

end Document

end ApiProto.Proto
