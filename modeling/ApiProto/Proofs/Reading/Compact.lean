/-
  The compact text of a value spells it.

  There is a lemma for each kind of value but numbers; those for arrays and objects ask it of what
  stands in them.
-/
import ApiProto.Json.Grammar
import ApiProto.Json.Printer
import Mathlib.Data.List.Forall2
import Mathlib.Tactic.SplitIfs

namespace ApiProto.Json

/-! ## Strings -/

theorem hexValue?_digitChar {n : Nat} (h : n < 16) : hexValue? (Nat.digitChar n) = some n := by
  revert n
  decide

/-- A control character is spelled by its code. -/
theorem spellsUnit_hexDigit {n : Nat} (h : n < 0x20) :
    SpellsUnit n ['0', '0', hexDigit n 1, hexDigit n 0] := by
  have hzero : hexValue? '0' = some 0 := rfl
  have hfirst : hexValue? (hexDigit n 1) = some (n / 16 % 16) := by
    have hpow : Nat.pow 16 1 = 16 := rfl
    rw [hexDigit, hpow]
    exact hexValue?_digitChar (Nat.mod_lt _ (by decide))
  have hsecond : hexValue? (hexDigit n 0) = some (n % 16) := by
    have hpow : Nat.pow 16 0 = 1 := rfl
    rw [hexDigit, hpow, Nat.div_one]
    exact hexValue?_digitChar (Nat.mod_lt _ (by decide))
  have hunit := SpellsUnit.mk hzero hzero hfirst hsecond
  have hsum : 0 * 0x1000 + 0 * 0x100 + n / 16 % 16 * 0x10 + n % 16 = n := by omega
  rwa [hsum] at hunit

theorem spellsChar_escapeChar (c : Char) : SpellsChar c (escapeChar c) := by
  have hcode : ∀ n, c.toNat = n → c = Char.ofNat n := by
    rintro n rfl
    exact (Char.ofNat_toNat c).symm
  -- a letter for each of the seven characters that have one, the code for other control characters
  unfold escapeChar
  split_ifs with hquote h8 h9 hA hC hD hcontrol
  · refine .short ?_
    rcases hquote with rfl | rfl <;> simp [shortEscapes]
  · rw [hcode _ h8]
    exact .short (by simp [shortEscapes])
  · rw [hcode _ h9]
    exact .short (by simp [shortEscapes])
  · rw [hcode _ hA]
    exact .short (by simp [shortEscapes])
  · rw [hcode _ hC]
    exact .short (by simp [shortEscapes])
  · rw [hcode _ hD]
    exact .short (by simp [shortEscapes])
  · exact .unit (spellsUnit_hexDigit hcontrol)
  · rw [not_or] at hquote
    exact .plain hquote.1 hquote.2 (Nat.not_lt.mp hcontrol)

theorem spellsChars_flatMap (cs : List Char) : SpellsChars cs (cs.flatMap escapeChar) := by
  induction cs with
  | nil => exact .nil
  | cons c cs ih => exact .cons (spellsChar_escapeChar c) ih

theorem spellsString_writeString (s : String) : SpellsString s (writeString s) :=
  .mk (spellsChars_flatMap s.toList)

/-! ## Arrays and objects -/

theorem joined_intercalate {α : Type} {Part : α → List Char → Prop} {a : α} {as : List α}
    {t : List Char} {ts : List (List Char)} (h : Part a t) (hs : List.Forall₂ Part as ts) :
    Joined Part (a :: as) ([','].intercalate (t :: ts)) := by
  induction hs generalizing a t with
  | nil =>
      have hsingle := Joined.single blank_nil h blank_nil
      rw [List.append_nil, List.nil_append] at hsingle
      rwa [List.intercalate_singleton]
  | @cons a' t' as' ts' h' _ ih =>
      have hcons := Joined.cons blank_nil h blank_nil (ih h')
      rw [List.intercalate_cons_cons, List.append_assoc]
      exact hcons

/-- Parts with commas and no blanks between them stand between brackets. -/
theorem enclosed_intercalate {α : Type} {Part : α → List Char → Prop} {as : List α}
    {ts : List (List Char)} (h : List.Forall₂ Part as ts) :
    Enclosed Part as ([','].intercalate ts) := by
  cases h with
  | nil => exact .empty blank_nil
  | cons hpart hparts => exact .parts (joined_intercalate hpart hparts)

/-- The compact text of a value spells it, and the value nests at most so deep. -/
structure IsWritten (n : Nat) (v : Json) : Prop where
  spells : Spells v v.write
  depth_le : v.depth ≤ n

variable {n : Nat}

theorem isWritten_string (s : String) : IsWritten n (.string s) :=
  ⟨.string (spellsString_writeString s), Nat.zero_le n⟩

theorem isWritten_bool (b : Bool) : IsWritten n (.bool b) := by
  refine ⟨?_, Nat.zero_le n⟩
  cases b with
  | false => exact .boolFalse
  | true => exact .boolTrue

theorem isWritten_array {items : List Json} (h : ∀ v ∈ items, IsWritten n v) :
    IsWritten (n + 1) (.array items) := by
  refine ⟨?_, Nat.succ_le_succ (depthOfItems_le_iff.mpr fun v hv => (h v hv).depth_le)⟩
  have hitems : List.Forall₂ Spells items (writeItems items) := by
    induction items with
    | nil => exact .nil
    | cons v items ih =>
        obtain ⟨hv, hitems⟩ := List.forall_mem_cons.mp h
        exact .cons hv.spells (ih hitems)
  exact .array (enclosed_intercalate hitems)

theorem isWritten_object {members : List (String × Json)} (hnodup : (members.map Prod.fst).Nodup)
    (h : ∀ m ∈ members, IsWritten n m.2) : IsWritten (n + 1) (.object members) := by
  refine ⟨?_, Nat.succ_le_succ (depthOfMembers_le_iff.mpr fun m hm => (h m hm).depth_le)⟩
  have hmembers : List.Forall₂ (SpellsMember Spells) members (writeMembers members) := by
    -- that names differ is asked of the whole object, not of the members to come
    clear hnodup
    induction members with
    | nil => exact .nil
    | cons m members ih =>
        obtain ⟨hm, hmembers⟩ := List.forall_mem_cons.mp h
        exact .cons (.mk (spellsString_writeString m.1) blank_nil blank_nil hm.spells) (ih hmembers)
  exact .object (enclosed_intercalate hmembers) hnodup

/-- The members of a map have different names. -/
theorem isWritten_entries {α : Type} (m : OrderedMap String α) {f : α → Json}
    (h : ∀ a ∈ m.values, IsWritten n (f a)) :
    IsWritten (n + 1) (.object (m.entries.map fun e => (e.1, f e.2))) := by
  refine isWritten_object ?_ ?_
  · rw [List.map_map]
    exact m.nodup_keys
  · intro e he
    obtain ⟨e', he', rfl⟩ := List.mem_map.mp he
    exact h e'.2 (List.mem_map_of_mem he')

/-- A compact text is a text of its value. -/
theorem IsWritten.isTextOf {v : Json} (h : IsWritten n v) : IsTextOf v v.compact := by
  refine .mk blank_nil h.spells blank_nil ?_
  rw [compact, String.toList_ofList, List.nil_append, List.append_nil]

end ApiProto.Json
