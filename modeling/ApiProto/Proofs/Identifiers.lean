/-
  Identifiers and package names, as a grammar.

  An identifier is a Latin letter or an underscore with letters, digits and underscores behind it; a
  package name is one or more identifiers with single dots between them.  The check of a package
  accepts exactly the package names (`isValid_iff`).
-/
import ApiProto.Profile.Package

namespace ApiProto.Package

/-- A Latin letter or an underscore. -/
def Starts (c : Char) : Prop := ('A' ≤ c ∧ c ≤ 'Z') ∨ ('a' ≤ c ∧ c ≤ 'z') ∨ c = '_'

/-- A Latin letter, an underscore or a digit. -/
def Continues (c : Char) : Prop := Starts c ∨ ('0' ≤ c ∧ c ≤ '9')

/-- `[A-Za-z_][A-Za-z0-9_]*` -/
inductive IsIdentifier : List Char → Prop
  | mk {c : Char} {rest : List Char} (hc : Starts c) (hrest : ∀ d ∈ rest, Continues d) :
      IsIdentifier (c :: rest)

/-- An identifier, or an identifier and a package name with a dot between them. -/
inductive IsName : List Char → Prop
  | single {s : List Char} (hs : IsIdentifier s) : IsName s
  | dotted {s rest : List Char} (hs : IsIdentifier s) (hrest : IsName rest) :
      IsName (s ++ '.' :: rest)

/-! ## Identifiers -/

theorem isStart_iff {c : Char} : isStart c ↔ Starts c := by
  have hupper : c.isUpper ↔ 'A' ≤ c ∧ c ≤ 'Z' := by
    show decide ('A'.val ≤ c.val ∧ c.val ≤ 'Z'.val) = true ↔ _
    exact decide_eq_true_iff
  have hlower : c.isLower ↔ 'a' ≤ c ∧ c ≤ 'z' := by
    show (decide ('a'.val ≤ c.val) && decide (c.val ≤ 'z'.val)) = true ↔ _
    rw [Bool.and_eq_true, decide_eq_true_iff, decide_eq_true_iff]
    exact Iff.rfl
  show (c.isUpper || c.isLower || c == '_') = true ↔ _
  rw [Bool.or_eq_true, Bool.or_eq_true, hupper, hlower, beq_iff_eq, or_assoc, Starts]

theorem isPart_iff {c : Char} : isPart c ↔ Continues c := by
  have hdigit : c.isDigit ↔ '0' ≤ c ∧ c ≤ '9' := by
    show (decide ('0'.val ≤ c.val) && decide (c.val ≤ '9'.val)) = true ↔ _
    rw [Bool.and_eq_true, decide_eq_true_iff, decide_eq_true_iff]
    exact Iff.rfl
  show (c.isAlpha || c.isDigit || c == '_') = true ↔ _
  rw [Continues, ← isStart_iff, isStart, ← hdigit, Bool.or_eq_true, Bool.or_eq_true,
    Bool.or_eq_true]
  exact or_right_comm

theorem isIdentifier_iff {s : List Char} : isIdentifier s ↔ IsIdentifier s := by
  cases s with
  | nil =>
      refine iff_of_false Bool.false_ne_true ?_
      rintro ⟨⟩
  | cons c rest =>
      rw [isIdentifier, Bool.and_eq_true, isStart_iff, List.all_eq_true]
      simp only [isPart_iff]
      constructor
      · rintro ⟨hc, hrest⟩
        exact .mk hc hrest
      · rintro ⟨hc, hrest⟩
        exact ⟨hc, hrest⟩

instance (s : List Char) : Decidable (IsIdentifier s) := decidable_of_iff _ isIdentifier_iff

theorem IsIdentifier.continues {s : List Char} (h : IsIdentifier s) {c : Char} (hc : c ∈ s) :
    Continues c := by
  obtain ⟨hfirst, hrest⟩ := h
  rcases List.mem_cons.mp hc with rfl | hc
  · exact .inl hfirst
  · exact hrest c hc

/-- Two identifiers make one. -/
theorem IsIdentifier.append {s t : List Char} (h : IsIdentifier s) (h' : IsIdentifier t) :
    IsIdentifier (s ++ t) := by
  obtain ⟨hc, hrest⟩ := h
  exact .mk hc (List.forall_mem_append.mpr ⟨hrest, fun _ => h'.continues⟩)

/-- No identifier has a character that is no letter, underscore or digit. -/
theorem IsIdentifier.notMem {s : List Char} (h : IsIdentifier s) {c : Char} (hc : isPart c = false) :
    c ∉ s := by
  intro hmem
  have hpart : isPart c := isPart_iff.mpr (h.continues hmem)
  rw [hc] at hpart
  exact Bool.false_ne_true hpart

/-! ## Package names -/

theorem splitDots_ne_nil (s : List Char) : splitDots s ≠ [] := by
  fun_cases splitDots s <;> exact List.cons_ne_nil _ _

theorem splitDots_of_notMem {s : List Char} (h : '.' ∉ s) : splitDots s = [s] := by
  induction s with
  | nil => rfl
  | cons c rest ih =>
      rw [List.mem_cons, not_or] at h
      rw [splitDots, if_neg (Ne.symm h.1), ih h.2]

/-- A dot ends the text before it. -/
theorem splitDots_append_dot {s : List Char} (h : '.' ∉ s) (rest : List Char) :
    splitDots (s ++ '.' :: rest) = s :: splitDots rest := by
  induction s with
  | nil => rw [List.nil_append, splitDots, if_pos rfl]
  | cons c s ih =>
      rw [List.mem_cons, not_or] at h
      rw [List.cons_append, splitDots, if_neg (Ne.symm h.1), ih h.2]

theorem all_splitDots_of_isName {s : List Char} (h : IsName s) :
    ∀ p ∈ splitDots s, IsIdentifier p := by
  induction h with
  | single hs =>
      rw [splitDots_of_notMem (hs.notMem rfl)]
      exact List.forall_mem_singleton.mpr hs
  | dotted hs _ ih =>
      rw [splitDots_append_dot (hs.notMem rfl)]
      exact List.forall_mem_cons.mpr ⟨hs, ih⟩

/-- The texts between the dots make up the whole. -/
theorem intercalate_splitDots (s : List Char) : ['.'].intercalate (splitDots s) = s := by
  induction s with
  | nil => rfl
  | cons c rest ih =>
      obtain ⟨p, ps, hps⟩ := List.exists_cons_of_ne_nil (splitDots_ne_nil rest)
      rw [hps] at ih
      by_cases hc : c = '.'
      · rw [splitDots, if_pos hc, hps, List.intercalate_cons_cons, ih, hc]
        rfl
      · rw [splitDots, if_neg hc, hps]
        cases ps with
        | nil => simpa using ih
        | cons q qs =>
            rw [List.intercalate_cons_cons] at ih ⊢
            rw [← ih]
            rfl

/-- Identifiers with dots between them are a package name. -/
theorem isName_intercalate {ps : List (List Char)} (hne : ps ≠ []) (h : ∀ p ∈ ps, IsIdentifier p) :
    IsName (['.'].intercalate ps) := by
  induction ps with
  | nil => exact absurd rfl hne
  | cons p ps ih =>
      obtain ⟨hp, hps⟩ := List.forall_mem_cons.mp h
      cases ps with
      | nil =>
          rw [List.intercalate_singleton]
          exact .single hp
      | cons q qs =>
          rw [List.intercalate_cons_cons, List.append_assoc]
          exact .dotted hp (ih (List.cons_ne_nil q qs) hps)

/-- The check accepts exactly the package names. -/
theorem isValid_iff {package : String} : isValid package ↔ IsName package.toList := by
  have hall : isValid package ↔ ∀ p ∈ splitDots package.toList, IsIdentifier p := by
    rw [isValid, List.all_eq_true]
    simp only [isIdentifier_iff]
  rw [hall]
  refine ⟨fun h => ?_, all_splitDots_of_isName⟩
  rw [← intercalate_splitDots package.toList]
  exact isName_intercalate (splitDots_ne_nil _) h

end ApiProto.Package
