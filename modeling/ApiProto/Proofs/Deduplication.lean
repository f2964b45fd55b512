/-
  One wrapper message for each operation.

  With or without repeated wrapper messages a file has the same front and the same groups.  What an
  operation contributes to its group is all of its wrapper messages or the first of them, so the two
  texts are the same exactly if no operation has two.
-/
import ApiProto.Proofs.Layout
import ApiProto.Proofs.LineText
import ApiProto.Proofs.Wrappers
import Mathlib.Data.List.TakeDrop

namespace ApiProto.Proto

open scoped List

/-- For each service that has a group, in the order of the groups, all wrapper messages of each of
its operations. -/
def contributions (d : Definition) : List (List (List Wrapper)) :=
  (wrappingServices d).map fun s => s.2.map (operationWrappers false)

/-- The lines of groups of wrapper messages, with one empty line between groups. -/
def groupLines (width : Nat) (groups : List (List Wrapper)) : List String :=
  spaced (groups.map fun group => group.flatMap (wrapperBlock width))

/-! ## Groups -/

section Groups

variable (d : Definition)

/-- A group holds what the operations of its service contribute. -/
theorem wrapperGroups_false :
    wrapperGroups (sortedServices d) false = (contributions d).map List.flatten := by
  rw [wrapperGroups_eq_map, contributions, List.map_map]
  rfl

/-- If wrapper messages are not repeated, it holds the first of each contribution. -/
theorem wrapperGroups_true : wrapperGroups (sortedServices d) true
    = (contributions d).map fun group => group.flatMap (List.take 1) := by
  rw [wrapperGroups_eq_map, contributions, List.map_map]
  refine List.map_congr_left fun s _ => ?_
  rw [Function.comp_apply, List.flatMap_map]
  rfl

variable {d}

theorem contribution_ne_nil {group : List (List Wrapper)} (h : group ∈ contributions d) :
    group.flatten ≠ [] ∧ group.flatMap (List.take 1) ≠ [] := by
  have hfull : group.flatten ∈ wrapperGroups (sortedServices d) false := by
    rw [wrapperGroups_false]
    exact List.mem_map_of_mem h
  have hfirst : group.flatMap (List.take 1) ∈ wrapperGroups (sortedServices d) true := by
    rw [wrapperGroups_true]
    exact List.mem_map_of_mem (f := fun group => group.flatMap (List.take 1)) h
  exact ⟨ne_nil_of_mem_wrapperGroups hfull, ne_nil_of_mem_wrapperGroups hfirst⟩

theorem length_operationWrappers_false (o : Operation) :
    (operationWrappers false o).length = (o.responses.entries.filter givesPrimitive).length :=
  (operationWrappers_forall₂ false o).length_eq.symm

/-- What holds of every contribution holds of the wrapper messages of every operation, if it holds of
none. -/
theorem forall_contributions_iff {p : List Wrapper → Prop} (hnil : p []) :
    (∀ group ∈ contributions d, ∀ ws ∈ group, p ws) ↔
      ∀ s ∈ d.services.entries, ∀ o ∈ s.2, p (operationWrappers false o) := by
  simp only [contributions, List.forall_mem_map, mem_wrappingServices]
  refine ⟨fun h s hs o ho => ?_, fun h s hs o ho => h s hs.1 o ho⟩
  -- an operation without a wrapper message may be in a service without a group
  by_cases hneeds : needsWrapper o
  · exact h s ⟨hs, List.any_eq_true.mpr ⟨o, ho, hneeds⟩⟩ o ho
  · rw [← operationWrappers_ne_nil_iff false, not_not] at hneeds
    rwa [hneeds]

end Groups

/-! ## Fronts -/

section Documents

variable (d : Definition) (package : String) (width : Nat)

/-- The front of a file does not depend on whether wrapper messages are repeated. -/
theorem front_deduplicated :
    (Document.ofDefinition d package true).front width
      = (Document.ofDefinition d package false).front width := by
  have hempty : (Document.ofDefinition d package true).wrappers.isEmpty
      = (Document.ofDefinition d package false).wrappers.isEmpty := by
    show (wrapperGroups _ true).isEmpty = (wrapperGroups _ false).isEmpty
    rw [wrapperGroups_true, wrapperGroups_false, List.isEmpty_map, List.isEmpty_map]
  show (Document.ofDefinition d package false).header
      ++ spaced (((Document.ofDefinition d package false).sections width).filter (!·.isEmpty))
      ++ (if (Document.ofDefinition d package false).hasTypes
          || !(Document.ofDefinition d package true).wrappers.isEmpty then [""] else []) = _
  rw [hempty]
  rfl

/-- The text with all wrapper messages. -/
theorem render_false : render d package ⟨width, false⟩
    = linesText ((Document.ofDefinition d package false).front width)
      ++ linesText (groupLines width ((contributions d).map List.flatten)) := by
  rw [render_eq_text, Document.text_eq_front_wrapperLines, ← wrapperGroups_false]
  rfl

/-- The text with the first wrapper message of each operation. -/
theorem render_true : render d package ⟨width, true⟩
    = linesText ((Document.ofDefinition d package false).front width)
      ++ linesText (groupLines width
        ((contributions d).map fun group => group.flatMap (List.take 1))) := by
  rw [render_eq_text, Document.text_eq_front_wrapperLines, ← front_deduplicated, ← wrapperGroups_true]
  rfl

end Documents

/-! ## Texts that are the same -/

theorem wrapperBlock_ne_nil (width : Nat) (m : Wrapper) : wrapperBlock width m ≠ [] :=
  block_ne_nil _ _ _

/-- The first wrapper messages of contributions are some of all. -/
theorem firsts_sublist (group : List (List Wrapper)) :
    group.flatMap (List.take 1) <+ group.flatMap id :=
  List.Sublist.flatMap_right group fun ws _ => List.take_sublist 1 ws

theorem firstLines_sublist (width : Nat) (group : List (List Wrapper)) :
    (group.flatMap (List.take 1)).flatMap (wrapperBlock width)
      <+ group.flatten.flatMap (wrapperBlock width) := by
  rw [List.flatten_eq_flatMap]
  exact (firsts_sublist group).flatMap (wrapperBlock width)

/-- The lines of groups are the same exactly if nothing is left out of a contribution. -/
theorem groupLines_eq_iff (width : Nat) (groups : List (List (List Wrapper))) :
    groupLines width (groups.map fun group => group.flatMap (List.take 1))
        = groupLines width (groups.map List.flatten) ↔
      ∀ group ∈ groups, ∀ ws ∈ group, ws.length ≤ 1 := by
  constructor
  · intro h group hgroup ws hws
    rw [groupLines, groupLines, List.map_map, List.map_map] at h
    have hgroups : (group.flatMap (List.take 1)).flatMap (wrapperBlock width)
        = (group.flatMap id).flatMap (wrapperBlock width) := by
      rw [← List.flatten_eq_flatMap]
      exact eq_of_spaced_map_eq_of_sublist (fun g _ => firstLines_sublist width g) h group hgroup
    -- from the lines of a group to its messages, and from these to the contributions
    have hmessages : group.flatMap (List.take 1) = group.flatMap id :=
      eq_of_sublist_of_flatMap_eq (wrapperBlock_ne_nil width) (firsts_sublist group) hgroups
    have hws := eq_of_flatMap_eq_of_sublist (fun ws _ => List.take_sublist 1 ws) hmessages ws hws
    exact (List.take_eq_self_iff ws).mp hws
  · intro h
    congr 1
    refine List.map_congr_left fun group hgroup => ?_
    rw [List.flatten_eq_flatMap]
    exact List.flatMap_congr fun ws hws => (List.take_eq_self_iff ws).mpr (h group hgroup ws hws)

theorem groupLines_sublist (width : Nat) (groups : List (List (List Wrapper))) :
    groupLines width (groups.map fun group => group.flatMap (List.take 1))
      <+ groupLines width (groups.map List.flatten) := by
  rw [groupLines, groupLines, List.map_map, List.map_map]
  exact spaced_map_sublist fun group _ => firstLines_sublist width group

/-- **Without repeated wrapper messages a file only loses them.**  The text has the same front, and
behind it the same groups with the first wrapper message of each operation, and none of these groups
is empty.  Nothing is lost exactly if no operation has two successful responses with a primitive
body. -/
theorem render_deduplicated (d : Definition) (package : String) (width : Nat) :
    let front := linesText ((Document.ofDefinition d package false).front width)
    render d package ⟨width, false⟩
        = front ++ linesText (groupLines width ((contributions d).map List.flatten)) ∧
      render d package ⟨width, true⟩
        = front ++ linesText (groupLines width
          ((contributions d).map fun group => group.flatMap (List.take 1))) ∧
      (∀ group ∈ contributions d, group.flatten ≠ [] ∧ group.flatMap (List.take 1) ≠ []) ∧
      (render d package ⟨width, true⟩ = render d package ⟨width, false⟩ ↔
        ∀ s ∈ d.services.entries, ∀ o ∈ s.2,
          (o.responses.entries.filter givesPrimitive).length ≤ 1) := by
  intro front
  refine ⟨render_false d package width, render_true d package width,
    fun group => contribution_ne_nil, ?_⟩
  have htexts : render d package ⟨width, true⟩ = render d package ⟨width, false⟩ ↔
      groupLines width ((contributions d).map fun group => group.flatMap (List.take 1))
        = groupLines width ((contributions d).map List.flatten) := by
    rw [render_true, render_false, String.append_right_inj]
    exact ⟨linesText_eq_of_sublist (groupLines_sublist width _), congrArg linesText⟩
  have hcount := forall_contributions_iff (d := d) (p := fun ws => ws.length ≤ 1) (Nat.zero_le 1)
  simp only [length_operationWrappers_false] at hcount
  rw [htexts, groupLines_eq_iff, hcount]

/-- The only operation of `tally` gives a number or a text, and loses the wrapper of the text. -/
theorem render_deduplicated_tally :
    contributions tally = [[[⟨"count", .integer⟩, ⟨"count", .string⟩]]] ∧
      render tally "tally" ⟨4, true⟩ ≠ render tally "tally" ⟨4, false⟩ := by
  have hservice : ("TallyService", [count]) ∈ tally.services.entries := by decide +kernel
  have hcount : ¬ (count.responses.entries.filter givesPrimitive).length ≤ 1 := by decide +kernel
  refine ⟨by decide +kernel, fun htext => hcount ?_⟩
  exact (render_deduplicated tally "tally" 4).2.2.2.mp htext _ hservice count List.mem_cons_self

end ApiProto.Proto
