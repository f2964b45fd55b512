/-
  Texts that are made of lines.

  The text of lines has a line break behind each of them.  Lines without line breaks of their own can
  be read back from it (`linesText_inj`), and lines that are among others have another text unless
  they are all of them (`linesText_eq_of_sublist`).  A file is a header, sections and wrapper messages,
  and its text can be cut behind each of these.
-/
import ApiProto.Proofs.Lines
import Mathlib.Data.List.Flatten

namespace ApiProto.Proto

open scoped List

variable {α β : Type}

/-! ## Parts with a mark behind them -/

/-- The first mark is where what has no mark ends. -/
theorem append_mark_inj {mark : α} {as as' bs bs' : List α} (h : mark ∉ as) (h' : mark ∉ as')
    (heq : as ++ mark :: bs = as' ++ mark :: bs') : as = as' ∧ bs = bs' := by
  induction as generalizing as' with
  | nil =>
      cases as' with
      | nil => exact ⟨rfl, (List.cons.inj heq).2⟩
      | cons a as' => exact absurd ((List.cons.inj heq).1 ▸ List.mem_cons_self) h'
  | cons a as ih =>
      cases as' with
      | nil => exact absurd ((List.cons.inj heq).1 ▸ List.mem_cons_self) h
      | cons a' as' =>
          obtain ⟨rfl, htail⟩ := List.cons.inj heq
          obtain ⟨rfl, hbs⟩ := ih (List.not_mem_of_not_mem_cons h) (List.not_mem_of_not_mem_cons h') htail
          exact ⟨rfl, hbs⟩

/-- The last mark is where what has no mark begins. -/
theorem append_last_mark_inj {mark : α} {as as' bs bs' : List α} (h : mark ∉ bs) (h' : mark ∉ bs')
    (heq : as ++ mark :: bs = as' ++ mark :: bs') : as = as' ∧ bs = bs' := by
  have hreverse := congrArg List.reverse heq
  rw [List.reverse_append, List.reverse_append, List.reverse_cons, List.reverse_cons,
    List.append_assoc, List.append_assoc] at hreverse
  obtain ⟨hbs, has⟩ := append_mark_inj (by rwa [List.mem_reverse]) (by rwa [List.mem_reverse]) hreverse
  exact ⟨List.reverse_injective has, List.reverse_injective hbs⟩

/-- Parts can be told apart if a mark that is in none of them stands behind each. -/
theorem flatMap_append_mark_inj {mark : α} {ls ms : List (List α)} (hl : ∀ l ∈ ls, mark ∉ l)
    (hm : ∀ m ∈ ms, mark ∉ m)
    (h : (ls.flatMap fun l => l ++ [mark]) = ms.flatMap fun m => m ++ [mark]) : ls = ms := by
  induction ls generalizing ms with
  | nil =>
      cases ms with
      | nil => rfl
      | cons m ms => simp at h
  | cons l ls ih =>
      obtain ⟨hl, hls⟩ := List.forall_mem_cons.mp hl
      cases ms with
      | nil => simp at h
      | cons m ms =>
          obtain ⟨hm, hms⟩ := List.forall_mem_cons.mp hm
          -- the first mark ends the first part on both sides
          simp only [List.flatMap_cons, List.append_assoc, List.singleton_append] at h
          obtain ⟨rfl, hrest⟩ := append_mark_inj hl hm h
          rw [ih hls hms hrest]

/-! ## Parts that are left out -/

/-- Where nothing is missing in what is made of the members, no member is missing. -/
theorem eq_of_sublist_of_flatMap_eq {f : α → List β} (hf : ∀ x, f x ≠ []) {ls ms : List α}
    (h : ls <+ ms) (heq : ls.flatMap f = ms.flatMap f) : ls = ms := by
  induction h with
  | slnil => rfl
  | @cons ls ms m h _ =>
      have hle := (h.flatMap f).length_le
      have hpos := List.length_pos_iff.mpr (hf m)
      have hlength := congrArg List.length heq
      rw [List.flatMap_cons, List.length_append] at hlength
      omega
  | @cons_cons ls ms m _ ih =>
      rw [List.flatMap_cons, List.flatMap_cons] at heq
      rw [ih (List.append_cancel_left heq)]

/-- Where nothing is missing in the whole, nothing is missing in what is made of a member. -/
theorem eq_of_flatMap_eq_of_sublist {f g : α → List β} {l : List α} (h : ∀ x ∈ l, f x <+ g x)
    (heq : l.flatMap f = l.flatMap g) : ∀ x ∈ l, f x = g x := by
  induction l with
  | nil => exact List.forall_mem_nil _
  | cons x rest ih =>
      obtain ⟨hx, hrest⟩ := List.forall_mem_cons.mp h
      have hle := hx.length_le
      have hle' := (List.Sublist.flatMap_right rest hrest).length_le
      have hlength := congrArg List.length heq
      rw [List.flatMap_cons, List.flatMap_cons, List.length_append, List.length_append] at hlength
      obtain ⟨hfirst, htail⟩ := List.append_inj heq (by omega)
      exact List.forall_mem_cons.mpr ⟨hfirst, ih hrest htail⟩

/-! ## Spaced parts -/

theorem spaced_map_cons (f : α → List String) (x : α) (rest : List α) :
    spaced ((x :: rest).map f) = f x ++ rest.flatMap fun y => "" :: f y := by
  rw [List.map_cons, spaced_cons, List.flatMap_map]

theorem spaced_map_sublist {f g : α → List String} {l : List α} (h : ∀ x ∈ l, f x <+ g x) :
    spaced (l.map f) <+ spaced (l.map g) := by
  cases l with
  | nil => exact List.Sublist.refl _
  | cons x rest =>
      obtain ⟨hx, hrest⟩ := List.forall_mem_cons.mp h
      rw [spaced_map_cons, spaced_map_cons]
      exact hx.append (List.Sublist.flatMap_right rest fun y hy => (hrest y hy).cons_cons "")

theorem eq_of_spaced_map_eq_of_sublist {f g : α → List String} {l : List α}
    (h : ∀ x ∈ l, f x <+ g x) (heq : spaced (l.map f) = spaced (l.map g)) : ∀ x ∈ l, f x = g x := by
  cases l with
  | nil => exact List.forall_mem_nil _
  | cons x rest =>
      obtain ⟨hx, hrest⟩ := List.forall_mem_cons.mp h
      have hrest' : ∀ y ∈ rest, "" :: f y <+ "" :: g y := fun y hy => (hrest y hy).cons_cons ""
      rw [spaced_map_cons, spaced_map_cons] at heq
      have hle := hx.length_le
      have hle' := (List.Sublist.flatMap_right rest hrest').length_le
      have hlength := congrArg List.length heq
      rw [List.length_append, List.length_append] at hlength
      obtain ⟨hfirst, htail⟩ := List.append_inj heq (by omega)
      have htails := eq_of_flatMap_eq_of_sublist hrest' htail
      exact List.forall_mem_cons.mpr ⟨hfirst, fun y hy => (List.cons.inj (htails y hy)).2⟩

/-! ## Texts -/

/-- The text of lines, with a line break behind each of them. -/
def linesText (ls : List String) : String := String.join (ls.map (· ++ "\n"))

theorem linesText_append (ls ms : List String) :
    linesText (ls ++ ms) = linesText ls ++ linesText ms := by
  rw [linesText, List.map_append, String.join_append]
  rfl

theorem toList_linesText (ls : List String) :
    (linesText ls).toList = ls.flatMap fun l => l.toList ++ ['\n'] := by
  rw [linesText, String.toList_join, List.flatMap_map]
  simp only [String.toList_append]
  rfl

theorem newline_notMem_append {s t : String} (hs : '\n' ∉ s.toList) (ht : '\n' ∉ t.toList) :
    '\n' ∉ (s ++ t).toList := by
  rw [String.toList_append, List.mem_append, not_or]
  exact ⟨hs, ht⟩

/-- Lines without line breaks of their own can be read back from their text. -/
theorem linesText_inj {ls ms : List String} (hl : ∀ l ∈ ls, '\n' ∉ l.toList)
    (hm : ∀ m ∈ ms, '\n' ∉ m.toList) (h : linesText ls = linesText ms) : ls = ms := by
  have hchars := congrArg String.toList h
  rw [toList_linesText, toList_linesText] at hchars
  have hlists : ls.map String.toList = ms.map String.toList := by
    refine flatMap_append_mark_inj (List.forall_mem_map.mpr hl) (List.forall_mem_map.mpr hm) ?_
    rwa [List.flatMap_map, List.flatMap_map]
  exact List.map_injective_iff.mpr (fun _ _ => String.toList_inj.mp) hlists

/-- Lines that are some of others have another text unless they are all of them. -/
theorem linesText_eq_of_sublist {ls ms : List String} (h : ls <+ ms)
    (heq : linesText ls = linesText ms) : ls = ms := by
  have hchars := congrArg String.toList heq
  rw [toList_linesText, toList_linesText] at hchars
  exact eq_of_sublist_of_flatMap_eq (fun l => by simp) h hchars

/-! ## The lines of a file -/

namespace Document

/-- The lines that say in which package a file is. -/
def header (doc : Document) : List String :=
  ["syntax = \"proto3\";", "", "package " ++ doc.package ++ ";", ""]

/-- The lines behind the header. -/
def body (width : Nat) (doc : Document) : List String :=
  spaced ((doc.sections width).filter (!·.isEmpty))
    ++ (if doc.hasTypes || !doc.wrappers.isEmpty then [""] else [])
    ++ doc.wrapperLines width

/-- The lines before the wrapper messages: the header, the sections that are not empty, and the empty
line behind them. -/
def front (width : Nat) (doc : Document) : List String :=
  doc.header ++ spaced ((doc.sections width).filter (!·.isEmpty))
    ++ (if doc.hasTypes || !doc.wrappers.isEmpty then [""] else [])

theorem text_eq_header_body (width : Nat) (doc : Document) :
    doc.text width = linesText doc.header ++ linesText (doc.body width) :=
  linesText_append doc.header (doc.body width)

theorem text_eq_front_wrapperLines (width : Nat) (doc : Document) :
    doc.text width = linesText (doc.front width) ++ linesText (doc.wrapperLines width) :=
  linesText_append (doc.front width) (doc.wrapperLines width)

end Document

end ApiProto.Proto
