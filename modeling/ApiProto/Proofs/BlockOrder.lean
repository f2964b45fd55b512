/-
  The order of blocks does not depend on the order of declaration.

  Two definitions that declare the same in another order have the same file, as long as names with
  equal keys keep their order.  A stable sort of entries that are pairwise different is determined
  by the entries and by the order among those that compare equal (`mergeSort_eq_of_perm`); the rest
  of the file is made from the sorted lists only.
-/
import ApiProto.Proto.Render
import Mathlib.Data.List.Nodup

namespace ApiProto.Proto

open scoped List

variable {α : Type}

/-! ## Stable sorting -/

/-- Of two different members of a list, one stands before the other. -/
theorem pair_sublist_or {l : List α} {a b : α} (ha : a ∈ l) (hb : b ∈ l) (hne : a ≠ b) :
    [a, b] <+ l ∨ [b, a] <+ l := by
  induction l with
  | nil => cases ha
  | cons x rest ih =>
      rcases List.mem_cons.mp ha with rfl | ha' <;> rcases List.mem_cons.mp hb with rfl | hb'
      · exact absurd rfl hne
      · exact Or.inl ((List.singleton_sublist.mpr hb').cons_cons a)
      · exact Or.inr ((List.singleton_sublist.mpr ha').cons_cons b)
      · rcases ih ha' hb' with h | h
        · exact Or.inl (h.cons x)
        · exact Or.inr (h.cons x)

/-- In a list without repetition, two members stand in one order only. -/
theorem not_pair_sublist_swap {l : List α} {a b : α} (hl : l.Nodup) (h : [a, b] <+ l) :
    ¬ [b, a] <+ l := by
  intro h'
  induction l with
  | nil => cases h
  | cons x rest ih =>
      obtain ⟨hx, hrest⟩ := List.nodup_cons.mp hl
      cases h with
      | cons _ h =>
          cases h' with
          | cons _ h' => exact ih hrest h h'
          | cons_cons _ h' => exact hx (h.subset (by simp))
      | cons_cons _ h =>
          cases h' with
          | cons _ h' => exact hx (h'.subset (by simp))
          | cons_cons _ h' => exact hx (h.subset (by simp))

section Sorting

variable {le : α → α → Bool} (trans : ∀ a b c, le a b → le b c → le a c)
  (total : ∀ a b, le a b || le b a)

include trans total

/-- Sorting keeps the order of those that compare equal. -/
theorem pairwise_mergeSort_ties {l : List α} (hl : l.Nodup) :
    (l.mergeSort le).Pairwise fun a b => le a b ∧ (le b a → [a, b] <+ l) := by
  have hsorted : (l.mergeSort le).Nodup := (List.mergeSort_perm l le).nodup_iff.mpr hl
  rw [List.pairwise_iff_forall_sublist]
  intro a b hab
  refine ⟨List.pairwise_iff_forall_sublist.mp (List.pairwise_mergeSort trans total l) hab, ?_⟩
  intro hba
  have ha : a ∈ l := List.mem_mergeSort.mp (hab.subset (by simp))
  have hb : b ∈ l := List.mem_mergeSort.mp (hab.subset (by simp))
  have hne : a ≠ b := by
    rintro rfl
    exact List.nodup_iff_sublist.mp hsorted a hab
  -- in the other order they would, being equal for the sort, have stayed in it
  refine (pair_sublist_or ha hb hne).resolve_right fun h => ?_
  exact not_pair_sublist_swap hsorted hab (List.pair_sublist_mergeSort trans total hba h)

/-- A stable sort is determined by the members and by the order of those that compare equal. -/
theorem mergeSort_eq_of_perm {l l' : List α} (hl : l.Nodup) (hperm : l.Perm l')
    (hties : ∀ a ∈ l, ∀ b ∈ l, le a b → le b a → ([a, b] <+ l ↔ [a, b] <+ l')) :
    l.mergeSort le = l'.mergeSort le := by
  have hl' : l'.Nodup := hperm.nodup_iff.mp hl
  have hsorted := pairwise_mergeSort_ties trans total hl
  have hsorted' := pairwise_mergeSort_ties trans total hl'
  refine List.Perm.eq_of_pairwise ?_ hsorted (hsorted'.imp_of_mem ?_)
    (((List.mergeSort_perm l le).trans hperm).trans (List.mergeSort_perm l' le).symm)
  · -- two that compare equal would stand in both orders
    rintro a b - - ⟨hab, hab'⟩ ⟨hba, hba'⟩
    exact absurd (hba' hab) (not_pair_sublist_swap hl (hab' hba))
  · rintro a b ha hb ⟨hab, hab'⟩
    have ha : a ∈ l := hperm.mem_iff.mpr (List.mem_mergeSort.mp ha)
    have hb : b ∈ l := hperm.mem_iff.mpr (List.mem_mergeSort.mp hb)
    exact ⟨hab, fun hba => (hties a ha b hb hab hba).mpr (hab' hba)⟩

end Sorting

/-! ## Keys of names -/

/-- The first two weights decide, unless they are the same. -/
theorem keyLE_cons_iff {a b : Nat} {as bs : List Nat} :
    keyLE (a :: as) (b :: bs) ↔ a < b ∨ a = b ∧ keyLE as bs := by
  rw [keyLE]
  by_cases h : a = b
  · simp [h]
  · simp [h]

theorem not_keyLE_nil (a : Nat) (as : List Nat) : ¬ keyLE (a :: as) [] :=
  Bool.false_ne_true

theorem keyLE_trans {as bs cs : List Nat} (h : keyLE as bs) (h' : keyLE bs cs) : keyLE as cs := by
  induction as generalizing bs cs with
  | nil => rfl
  | cons a as ih =>
      obtain _ | ⟨b, bs⟩ := bs
      · exact absurd h (not_keyLE_nil a as)
      obtain _ | ⟨c, cs⟩ := cs
      · exact absurd h' (not_keyLE_nil b bs)
      rw [keyLE_cons_iff] at h h' ⊢
      rcases h with hab | ⟨rfl, hs⟩ <;> rcases h' with hbc | ⟨rfl, hs'⟩
      · exact Or.inl (by omega)
      · exact Or.inl hab
      · exact Or.inl hbc
      · exact Or.inr ⟨rfl, ih hs hs'⟩

theorem keyLE_total (as bs : List Nat) : keyLE as bs || keyLE bs as := by
  rw [Bool.or_eq_true]
  induction as generalizing bs with
  | nil => exact Or.inl rfl
  | cons a as ih =>
      obtain _ | ⟨b, bs⟩ := bs
      · exact Or.inr rfl
      rw [keyLE_cons_iff, keyLE_cons_iff]
      have hrest := ih bs
      rcases Nat.lt_trichotomy a b with hlt | rfl | hgt
      · exact Or.inl (Or.inl hlt)
      · exact hrest.imp (fun h => Or.inr ⟨rfl, h⟩) (fun h => Or.inr ⟨rfl, h⟩)
      · exact Or.inr (Or.inl hgt)

theorem keyLE_antisymm {as bs : List Nat} (h : keyLE as bs) (h' : keyLE bs as) : as = bs := by
  induction as generalizing bs with
  | nil =>
      obtain _ | ⟨b, bs⟩ := bs
      · rfl
      · exact absurd h' (not_keyLE_nil b bs)
  | cons a as ih =>
      obtain _ | ⟨b, bs⟩ := bs
      · exact absurd h (not_keyLE_nil a as)
      rw [keyLE_cons_iff] at h h'
      have heq : a = b := by omega
      subst heq
      have hs : keyLE as bs := (h.resolve_left (Nat.lt_irrefl a)).2
      have hs' : keyLE bs as := (h'.resolve_left (Nat.lt_irrefl a)).2
      rw [ih hs hs']

/-- Models and enumerations are compared by the keys of their names. -/
theorem entryLE_trans (a b c : String × α) (h : keyLE (collationKey a.1) (collationKey b.1))
    (h' : keyLE (collationKey b.1) (collationKey c.1)) :
    keyLE (collationKey a.1) (collationKey c.1) :=
  keyLE_trans h h'

theorem entryLE_total (a b : String × α) :
    keyLE (collationKey a.1) (collationKey b.1) || keyLE (collationKey b.1) (collationKey a.1) :=
  keyLE_total _ _

/-- Services are compared by their names, without a key. -/
theorem serviceLE_trans (a b c : String × Service) (h : decide (a.1 ≤ b.1))
    (h' : decide (b.1 ≤ c.1)) : decide (a.1 ≤ c.1) := by
  rw [decide_eq_true_eq] at h h' ⊢
  exact String.le_trans h h'

theorem serviceLE_total (a b : String × Service) : decide (a.1 ≤ b.1) || decide (b.1 ≤ a.1) := by
  rw [Bool.or_eq_true, decide_eq_true_eq, decide_eq_true_eq]
  exact String.le_total a.1 b.1

theorem sortedServices_perm (d : Definition) : (sortedServices d).Perm d.services.entries :=
  List.mergeSort_perm ..

/-- The services of a file stand in the order of their names. -/
theorem pairwise_le_sortedServices (d : Definition) :
    ((sortedServices d).map Prod.fst).Pairwise (· ≤ ·) := by
  have hsorted := List.pairwise_mergeSort serviceLE_trans serviceLE_total d.services.entries
  rw [List.pairwise_map]
  exact hsorted.imp fun h => of_decide_eq_true h

/-! ## Reordered declarations -/

/-- Two lists hold the same entries, those of names with one key in the same order. -/
structure SameUpToTies (es es' : List (String × α)) : Prop where
  perm : es.Perm es'
  ties : ∀ a ∈ es, ∀ b ∈ es, collationKey a.1 = collationKey b.1 →
    ([a, b] <+ es ↔ [a, b] <+ es')

theorem nodup_entries (m : OrderedMap String α) : m.entries.Nodup :=
  m.nodup_keys.of_map

theorem inDictionaryOrder_eq {m m' : OrderedMap String α}
    (h : SameUpToTies m.entries m'.entries) :
    inDictionaryOrder m.entries = inDictionaryOrder m'.entries := by
  refine mergeSort_eq_of_perm entryLE_trans entryLE_total (nodup_entries m) h.perm ?_
  intro a ha b hb hab hba
  exact h.ties a ha b hb (keyLE_antisymm hab hba)

theorem sortedServices_eq {d d' : Definition} (h : d.services.entries.Perm d'.services.entries) :
    sortedServices d = sortedServices d' := by
  have hnodup := nodup_entries d.services
  refine mergeSort_eq_of_perm serviceLE_trans serviceLE_total hnodup h ?_
  intro a ha b hb hab hba
  -- only a service itself has its name, and none stands there twice
  have hname : a.1 = b.1 := String.le_antisymm (of_decide_eq_true hab) (of_decide_eq_true hba)
  have heq : a = b := List.inj_on_of_nodup_map d.services.nodup_keys ha hb hname
  rw [heq]
  exact iff_of_false (List.nodup_iff_sublist.mp hnodup b)
    (List.nodup_iff_sublist.mp (h.nodup_iff.mp hnodup) b)

/-- **The file does not depend on the order of declaration**, but for names with equal keys. -/
theorem render_eq_of_reordered {d d' : Definition}
    (hservices : d.services.entries.Perm d'.services.entries)
    (henums : SameUpToTies d.enums.entries d'.enums.entries)
    (hmodels : SameUpToTies d.models.entries d'.models.entries)
    (package : String) (settings : Settings) :
    render d package settings = render d' package settings := by
  have hS : sortedServices d = sortedServices d' := sortedServices_eq hservices
  have hE : sortedEnums d = sortedEnums d' := inDictionaryOrder_eq henums
  have hM : sortedModels d = sortedModels d' := inDictionaryOrder_eq hmodels
  unfold render writeFile
  rw [hS, hE, hM]

/-- Three models, two of them with names that differ in letter case only. -/
def clinic : Definition where
  services := .ofList [("PetService", []), ("CatService", [])]
  models := .ofList [
    ("pet", .empty), ("Pet", .ofList [("mother", ⟨.model "pet", false⟩)]), ("Cat", .empty)]
  enums := .ofList [("Kind", ["CAT"]), ("Coat", ["LONG", "SHORT"])]

/-- The declarations of `clinic` in another order; `pet` still comes before `Pet`. -/
def reorderedClinic : Definition where
  services := .ofList [("CatService", []), ("PetService", [])]
  models := .ofList [
    ("Cat", .empty), ("pet", .empty), ("Pet", .ofList [("mother", ⟨.model "pet", false⟩)])]
  enums := .ofList [("Coat", ["LONG", "SHORT"]), ("Kind", ["CAT"])]

theorem render_clinic_eq :
    clinic.services.entries.Perm reorderedClinic.services.entries ∧
      SameUpToTies clinic.enums.entries reorderedClinic.enums.entries ∧
      SameUpToTies clinic.models.entries reorderedClinic.models.entries ∧
      render clinic "pets.v1" {} = render reorderedClinic "pets.v1" {} := by
  have hservices : clinic.services.entries.Perm reorderedClinic.services.entries := by
    decide +kernel
  have henums : SameUpToTies clinic.enums.entries reorderedClinic.enums.entries :=
    ⟨by decide +kernel, by decide +kernel⟩
  have hmodels : SameUpToTies clinic.models.entries reorderedClinic.models.entries :=
    ⟨by decide +kernel, by decide +kernel⟩
  exact ⟨hservices, henums, hmodels, render_eq_of_reordered hservices henums hmodels "pets.v1" {}⟩

end ApiProto.Proto
