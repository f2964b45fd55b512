/-
  The order in which blocks stand.

  Enumerations and models are sorted by keys, lists of pairs of a class and a character, which are
  compared as a dictionary compares words.  Sorting rearranges the entries, puts their keys in order
  and keeps those of one key as they were declared (`SortedByKey`).  For ASCII names the key is the
  name in small letters, so that the first letter, digit or mark that differs decides
  (`dictionaryKey_lt_iff`).
-/
import ApiProto.Proofs.AsciiText
import ApiProto.Proofs.Wrappers
import Mathlib.Data.Prod.Lex
import Mathlib.Order.Lex

namespace ApiProto.Proto

open Text (IsAscii)

/-! ## Keys as words of a dictionary -/

/-- The weight of a character in a dictionary: its class, and then the character itself. -/
def dictionaryWeight (c : Char) : Nat ×ₗ Char := toLex (collationClass c, c)

/-- The key of a name: the weights of the characters of its lower case. -/
def dictionaryKey (name : String) : List (Nat ×ₗ Char) :=
  (Text.lowerText name.toList).map dictionaryWeight

theorem dictionaryWeight_lt_iff {c d : Char} : dictionaryWeight c < dictionaryWeight d ↔
    collationClass c < collationClass d ∨ collationClass c = collationClass d ∧ c < d :=
  Prod.Lex.toLex_lt_toLex

theorem dictionaryWeight_injective : Function.Injective dictionaryWeight := by
  intro c d h
  exact congrArg (fun w => (ofLex w).2) h

/-- Weights are compared by the classes first, and then by the characters. -/
theorem collationWeight_lt_iff {c d : Char} :
    collationWeight c < collationWeight d ↔ dictionaryWeight c < dictionaryWeight d := by
  have hc := Text.toNat_lt c
  have hd := Text.toNat_lt d
  have hlt : c < d ↔ c.toNat < d.toNat := Iff.rfl
  rw [dictionaryWeight_lt_iff, hlt, collationWeight, collationWeight]
  omega

theorem collationWeight_injective : Function.Injective collationWeight := by
  intro c d h
  have hc := Text.toNat_lt c
  have hd := Text.toNat_lt d
  rw [collationWeight, collationWeight] at h
  exact Char.toNat_inj.mp (by omega)

theorem keyLE_map_iff {s t : List Char} : keyLE (s.map collationWeight) (t.map collationWeight) ↔
    s.map dictionaryWeight ≤ t.map dictionaryWeight := by
  rw [← not_lt]
  induction s generalizing t with
  | nil => exact iff_of_true rfl (List.not_lt_nil _)
  | cons c s ih =>
      cases t with
      | nil => exact iff_of_false (not_keyLE_nil _ _) (not_not.mpr (List.nil_lt_cons _ _))
      | cons d t =>
          rw [List.map_cons, List.map_cons, List.map_cons, List.map_cons, keyLE_cons_iff,
            List.cons_lt_cons_iff, ← collationWeight_lt_iff, ih]
          rcases Nat.lt_trichotomy (collationWeight c) (collationWeight d) with hlt | heq | hgt
          · refine iff_of_true (.inl hlt) ?_
            rintro (hgt | ⟨heq, -⟩)
            · exact Nat.lt_asymm hlt hgt
            · exact Nat.lt_irrefl _ (dictionaryWeight_injective heq ▸ hlt)
          · obtain rfl := collationWeight_injective heq
            simp
          · refine iff_of_false ?_ (not_not.mpr (.inl hgt))
            rintro (hlt | ⟨heq, -⟩)
            · exact Nat.lt_asymm hlt hgt
            · exact Nat.ne_of_gt hgt heq

/-- The sort compares keys as a dictionary compares words. -/
theorem keyLE_collationKey_iff {a b : String} :
    keyLE (collationKey a) (collationKey b) ↔ dictionaryKey a ≤ dictionaryKey b :=
  keyLE_map_iff

/-! ## Sorted blocks -/

/-- Entries are sorted by keys: they are rearranged so that their keys are in order, and those of one
key stand as they did before. -/
structure SortedByKey {α κ : Type} [LE κ] [DecidableEq κ] (key : String → κ)
    (entries sorted : List (String × α)) : Prop where
  perm : sorted.Perm entries
  ordered : (sorted.map fun e => key e.1).Pairwise (· ≤ ·)
  stable : ∀ k, (sorted.filter fun e => key e.1 = k) = entries.filter fun e => key e.1 = k

/-- Sorting leaves the members of a class in their order, if they compare equal. -/
theorem filter_mergeSort {α : Type} {le : α → α → Bool} (trans : ∀ a b c, le a b → le b c → le a c)
    (total : ∀ a b, le a b || le b a) {p : α → Bool} (hp : ∀ a b, p a → p b → le a b)
    (l : List α) : (l.mergeSort le).filter p = l.filter p := by
  have hties : (l.filter p).Pairwise fun a b => le a b := by
    refine List.pairwise_of_forall_mem_list fun a ha b hb => ?_
    exact hp a b (List.mem_filter.mp ha).2 (List.mem_filter.mp hb).2
  have hsub : (l.filter p).Sublist (l.mergeSort le) :=
    List.sublist_mergeSort trans total hties List.filter_sublist
  have hsub' : (l.filter p).Sublist ((l.mergeSort le).filter p) := by
    have h := hsub.filter p
    rwa [List.filter_filter, funext fun a => Bool.and_self (p a)] at h
  have hlength : (l.filter p).length = ((l.mergeSort le).filter p).length :=
    ((List.mergeSort_perm l le).filter p).length_eq.symm
  exact (hsub'.eq_of_length hlength).symm

theorem sortedByKey_inDictionaryOrder {α : Type} (entries : List (String × α)) :
    SortedByKey dictionaryKey entries (inDictionaryOrder entries) := by
  refine ⟨List.mergeSort_perm .., ?_, fun k => ?_⟩
  · rw [List.pairwise_map]
    exact (List.pairwise_mergeSort entryLE_trans entryLE_total entries).imp keyLE_collationKey_iff.mp
  · refine filter_mergeSort entryLE_trans entryLE_total (fun a b ha hb => ?_) entries
    rw [decide_eq_true_iff] at ha hb
    exact keyLE_collationKey_iff.mpr (le_of_eq (ha.trans hb.symm))

/-! ## Keys of ASCII names -/

/-- The class of an ASCII character: letters come behind digits, and digits behind the rest. -/
def asciiClass (c : Char) : Nat := if c.isAlpha then 2 else if c.isDigit then 1 else 0

/-- The first of two different characters has the lower class, or the lower code point in one. -/
def Precedes (c d : Char) : Prop :=
  asciiClass c < asciiClass d ∨ asciiClass c = asciiClass d ∧ c < d

/-- A text comes before another one: it is a proper prefix of that, or at the first place where they
differ it has the character that comes first. -/
def ComesBefore (s t : List Char) : Prop :=
  (∃ c rest, t = s ++ c :: rest) ∨
    ∃ common c d s' t', s = common ++ c :: s' ∧ t = common ++ d :: t' ∧ Precedes c d

/-- A name with its ASCII letters in lower case. -/
def asciiLower (name : String) : List Char := name.toList.map Char.toLower

theorem dictionaryKey_ascii {name : String} (h : IsAscii name.toList) :
    dictionaryKey name = (asciiLower name).map dictionaryWeight := by
  rw [dictionaryKey, Text.lowerText_eq_map h, asciiLower]

theorem dictionaryWeight_lt_iff_precedes {c d : Char} (hc : c.toNat < 0x80) (hd : d.toNat < 0x80) :
    dictionaryWeight c < dictionaryWeight d ↔ Precedes c d := by
  have hclass : ∀ {c : Char}, c.toNat < 0x80 → collationClass c = asciiClass c := by
    intro c h
    rw [collationClass, asciiClass, Text.isAlphabetic_of_lt h, Text.isNumeric_of_lt h]
  rw [dictionaryWeight_lt_iff, hclass hc, hclass hd, Precedes]

theorem comesBefore_cons_cons_iff {c d : Char} {s t : List Char} :
    ComesBefore (c :: s) (d :: t) ↔ Precedes c d ∨ c = d ∧ ComesBefore s t := by
  constructor
  · rintro (⟨e, rest, heq⟩ | ⟨common, e, f, s', t', hs, ht, hef⟩)
    · obtain ⟨rfl, rfl⟩ := List.cons_eq_cons.mp heq
      exact .inr ⟨rfl, .inl ⟨e, rest, rfl⟩⟩
    · cases common with
      | nil =>
          obtain ⟨rfl, rfl⟩ := List.cons_eq_cons.mp hs
          obtain ⟨rfl, rfl⟩ := List.cons_eq_cons.mp ht
          exact .inl hef
      | cons x common =>
          obtain ⟨rfl, rfl⟩ := List.cons_eq_cons.mp hs
          obtain ⟨rfl, rfl⟩ := List.cons_eq_cons.mp ht
          exact .inr ⟨rfl, .inr ⟨common, e, f, s', t', rfl, rfl, hef⟩⟩
  · rintro (hcd | ⟨rfl, ⟨e, rest, rfl⟩ | ⟨common, e, f, s', t', rfl, rfl, hef⟩⟩)
    · exact .inr ⟨[], c, d, s, t, rfl, rfl, hcd⟩
    · exact .inl ⟨e, rest, rfl⟩
    · exact .inr ⟨c :: common, e, f, s', t', rfl, rfl, hef⟩

theorem not_comesBefore_nil (s : List Char) : ¬ ComesBefore s [] := by
  rintro (⟨c, rest, heq⟩ | ⟨common, c, d, s', t', -, heq, -⟩)
  · simp at heq
  · simp at heq

/-- Texts of ASCII characters are compared at the first place where they differ. -/
theorem map_dictionaryWeight_lt_iff {s t : List Char} (hs : IsAscii s) (ht : IsAscii t) :
    s.map dictionaryWeight < t.map dictionaryWeight ↔ ComesBefore s t := by
  induction s generalizing t with
  | nil =>
      cases t with
      | nil => exact iff_of_false (List.not_lt_nil _) (not_comesBefore_nil [])
      | cons d t => exact iff_of_true (List.nil_lt_cons _ _) (.inl ⟨d, t, rfl⟩)
  | cons c s ih =>
      cases t with
      | nil => exact iff_of_false (List.not_lt_nil _) (not_comesBefore_nil _)
      | cons d t =>
          obtain ⟨hc, hs⟩ := Text.isAscii_cons.mp hs
          obtain ⟨hd, ht⟩ := Text.isAscii_cons.mp ht
          rw [List.map_cons, List.map_cons, List.cons_lt_cons_iff,
            dictionaryWeight_lt_iff_precedes hc hd, dictionaryWeight_injective.eq_iff, ih hs ht,
            comesBefore_cons_cons_iff]

/-- Two ASCII names have one key exactly if they differ in the case of letters only. -/
theorem dictionaryKey_inj {a b : String} (ha : IsAscii a.toList) (hb : IsAscii b.toList) :
    dictionaryKey a = dictionaryKey b ↔ asciiLower a = asciiLower b := by
  rw [dictionaryKey_ascii ha, dictionaryKey_ascii hb]
  exact dictionaryWeight_injective.list_map.eq_iff

theorem dictionaryKey_lt_iff {a b : String} (ha : IsAscii a.toList) (hb : IsAscii b.toList) :
    dictionaryKey a < dictionaryKey b ↔ ComesBefore (asciiLower a) (asciiLower b) := by
  rw [dictionaryKey_ascii ha, dictionaryKey_ascii hb]
  exact map_dictionaryWeight_lt_iff (Text.isAscii_map_toLower ha) (Text.isAscii_map_toLower hb)

/-! ## All blocks -/

/-- The blocks of a definition stand in the order of their kinds. -/
structure BlocksInOrder (d : Definition) : Prop where
  /-- Models and enumerations are sorted by their keys. -/
  models : SortedByKey dictionaryKey d.models.entries (sortedModels d)
  enums : SortedByKey dictionaryKey d.enums.entries (sortedEnums d)
  /-- Services are sorted by the bytes of their names, no two of which are the same. -/
  services_perm : (sortedServices d).Perm d.services.entries
  services_ordered : ((sortedServices d).map fun s => Text.bytes s.1).Pairwise (· < ·)

/-- **The order of blocks.**  Enumerations and models are sorted by their keys and stay in the order
of their declaration where these are equal, services by the bytes of their names.  The keys are
compared as a dictionary compares words: first by the first weight that differs.  ASCII names have
equal keys if they differ in the case of letters only, and otherwise the first place where their
lower cases differ decides, with a prefix first. -/
theorem blocks_in_order (d : Definition) :
    BlocksInOrder d ∧
      (∀ a b, keyLE (collationKey a) (collationKey b) ↔ dictionaryKey a ≤ dictionaryKey b) ∧
      ∀ a b : String, IsAscii a.toList → IsAscii b.toList →
        (dictionaryKey a = dictionaryKey b ↔ asciiLower a = asciiLower b) ∧
        (dictionaryKey a < dictionaryKey b ↔ ComesBefore (asciiLower a) (asciiLower b)) ∧
        (asciiLower a ≠ asciiLower b →
          ComesBefore (asciiLower a) (asciiLower b) ∨ ComesBefore (asciiLower b) (asciiLower a)) := by
  refine ⟨?_, fun _ _ => keyLE_collationKey_iff, fun a b ha hb =>
    ⟨dictionaryKey_inj ha hb, dictionaryKey_lt_iff ha hb, fun hne => ?_⟩⟩
  · exact {
      models := sortedByKey_inDictionaryOrder d.models.entries
      enums := sortedByKey_inDictionaryOrder d.enums.entries
      services_perm := sortedServices_perm d
      services_ordered := pairwise_bytes_sortedServices d }
  · have hkeys : dictionaryKey a ≠ dictionaryKey b := mt (dictionaryKey_inj ha hb).mp hne
    exact (lt_or_gt_of_ne hkeys).imp (dictionaryKey_lt_iff ha hb).mp (dictionaryKey_lt_iff hb ha).mp

/-- Models with names of all classes, two of which differ in the case of letters only. -/
def kennel : Definition where
  services := .ofList [("beta", []), ("Zeta", [])]
  models := .ofList [("petA", .empty), ("pet2", .empty), ("PET", .empty), ("Pet_tag", .empty),
    ("pet", .empty)]
  enums := .empty

theorem blocks_in_order_kennel :
    IsAscii "Pet_tag".toList ∧ IsAscii "pet2".toList ∧ dictionaryKey "Pet_tag" < dictionaryKey "pet2" ∧
      ((sortedModels kennel).filter fun m => dictionaryKey m.1 = dictionaryKey "Pet").map Prod.fst
        = ["PET", "pet"] := by
  have hmark : IsAscii "Pet_tag".toList := by decide +kernel
  have hdigit : IsAscii "pet2".toList := by decide +kernel
  obtain ⟨hsorted, -, hnames⟩ := blocks_in_order kennel
  -- the mark comes before the digit
  have hbefore : ComesBefore (asciiLower "Pet_tag") (asciiLower "pet2") :=
    .inr ⟨['p', 'e', 't'], '_', '2', ['t', 'a', 'g'], [], rfl, rfl, .inl (by decide)⟩
  refine ⟨hmark, hdigit, (hnames _ _ hmark hdigit).2.1.mpr hbefore, ?_⟩
  rw [hsorted.models.stable]
  decide +kernel

end ApiProto.Proto
