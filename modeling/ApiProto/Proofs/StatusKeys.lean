/-
  Which status keys mean success.

  A key is read without the white space at its ends and without a plus sign, digit by digit, and not
  at all if what has been read grows beyond a word of 16 bits.  More digits never make a number
  smaller, so the keys that are read are those whose decimal value is such a word
  (`ofKey?_eq_some_iff`), however many zeros it starts with: no value beyond the words comes back
  into the range of success.
-/
import ApiProto.Status
import Mathlib.Data.List.DropRight

namespace ApiProto

/-! ## White space at the ends -/

namespace Text

/-- The characters with the Unicode property White_Space, by code point. -/
def IsWhiteSpace (c : Char) : Prop :=
  0x09 ≤ c.toNat ∧ c.toNat ≤ 0x0D ∨ c.toNat = 0x20 ∨ c.toNat = 0x85 ∨ c.toNat = 0xA0 ∨
    c.toNat = 0x1680 ∨ 0x2000 ≤ c.toNat ∧ c.toNat ≤ 0x200A ∨ c.toNat = 0x2028 ∨
    c.toNat = 0x2029 ∨ c.toNat = 0x202F ∨ c.toNat = 0x205F ∨ c.toNat = 0x3000

/-- A text is what is left of another one without the white space at its two ends. -/
structure IsTrimmed (s t : List Char) : Prop where
  split : ∃ before after, s = before ++ (t ++ after) ∧
    (∀ c ∈ before, IsWhiteSpace c) ∧ ∀ c ∈ after, IsWhiteSpace c
  first : ∀ c ∈ t.head?, ¬ IsWhiteSpace c
  last : ∀ c ∈ t.getLast?, ¬ IsWhiteSpace c

theorem isBlank_iff {c : Char} : isBlank c ↔ IsWhiteSpace c := by
  have hspace : c = ' ' ↔ c.toNat = 0x20 := Char.toNat_inj.symm
  unfold isBlank IsWhiteSpace
  by_cases hascii : c.toNat < 0x80
  · rw [if_pos hascii, Bool.or_eq_true, Bool.and_eq_true, beq_iff_eq, hspace, decide_eq_true_iff,
      decide_eq_true_iff]
    omega
  · rw [if_neg hascii]
    simp only [blankRuns, inRuns, CodeRun.contains, Bool.if_false_left, Bool.and_eq_true,
      Bool.or_eq_true, Bool.not_eq_true', decide_eq_true_iff, decide_eq_false_iff_not, Nat.mod_one,
      beq_self_eq_true, and_true, Bool.false_eq_true, or_false, Nat.not_lt]
    omega

theorem trim_eq (s : List Char) : trim s = (s.dropWhile isBlank).rdropWhile isBlank := rfl

/-- What begins and ends with something else stays when the white space around it is removed. -/
theorem IsTrimmed.trim_eq {s t : List Char} (h : IsTrimmed s t) : trim s = t := by
  obtain ⟨before, after, rfl, hbefore, hafter⟩ := h.split
  simp only [← isBlank_iff] at hbefore hafter
  rw [Text.trim_eq, List.dropWhile_append_of_pos hbefore]
  cases t with
  | nil =>
      have hall : after.dropWhile isBlank = [] := List.dropWhile_eq_nil_iff.mpr hafter
      rw [List.nil_append, hall, List.rdropWhile_nil]
  | cons c t =>
      have hfirst : ¬ isBlank c := mt isBlank_iff.mp (h.first c rfl)
      have hlast : ∀ hne : c :: t ≠ [], ¬ isBlank ((c :: t).getLast hne) := fun hne =>
        mt isBlank_iff.mp (h.last _ (List.getLast?_eq_some_getLast hne))
      rw [List.cons_append, List.dropWhile_cons_of_neg hfirst, ← List.cons_append, List.rdropWhile,
        List.reverse_append, List.dropWhile_append_of_pos (by simpa using hafter)]
      exact List.rdropWhile_eq_self_iff.mpr hlast

theorem isTrimmed_trim (s : List Char) : IsTrimmed s (trim s) where
  split := by
    refine ⟨s.takeWhile isBlank, (s.dropWhile isBlank).rtakeWhile isBlank, ?_, fun c hc => ?_,
      fun c hc => ?_⟩
    · rw [trim_eq, List.rdropWhile_append_rtakeWhile, List.takeWhile_append_dropWhile]
    · exact isBlank_iff.mp (List.mem_takeWhile_imp hc)
    · exact isBlank_iff.mp (List.mem_rtakeWhile_imp hc)
  first c hc := by
    -- the text begins where the white space before it ends
    have hprefix : trim s <+: s.dropWhile isBlank := List.rdropWhile_prefix isBlank _
    have hhead : (s.dropWhile isBlank).head? = some c := by
      obtain ⟨t, ht⟩ := hprefix
      rw [← ht, List.head?_append, hc, Option.some_or]
    have hnot := List.head?_dropWhile_not isBlank s
    rw [hhead] at hnot
    exact mt isBlank_iff.mpr (by simpa using hnot)
  last c hc := by
    have hne : trim s ≠ [] := by
      intro hnil
      rw [hnil] at hc
      cases hc
    rw [List.getLast?_eq_some_getLast hne] at hc
    cases hc
    exact mt isBlank_iff.mpr (List.rdropWhile_last_not isBlank _ hne)

theorem isTrimmed_iff {s t : List Char} : IsTrimmed s t ↔ trim s = t :=
  ⟨IsTrimmed.trim_eq, fun h => h ▸ isTrimmed_trim s⟩

end Text

namespace Status

/-! ## Decimal values -/

/-- One or more digits from 0 to 9 that have a decimal value. -/
structure IsDecimal (ds : List Char) (n : Nat) : Prop where
  nonempty : ds ≠ []
  digits : ∀ d ∈ ds, d.isDigit
  value : Nat.ofDigitChars 10 ds 0 = n

/-- A key stands for a number: without the white space at its ends it is a decimal of that value,
behind a plus sign or no sign. -/
def StandsFor (key : List Char) (n : Nat) : Prop :=
  ∃ sign ds, Text.IsTrimmed key (sign ++ ds) ∧ (sign = [] ∨ sign = ['+']) ∧ IsDecimal ds n

theorem appendDigit_eq_some_iff {m n : Nat} {d : Char} : appendDigit m d = some n ↔
    d.isDigit ∧ 10 * m + (d.toNat - '0'.toNat) = n ∧ n ≤ maxStatus := by
  unfold appendDigit
  by_cases hd : d.isDigit
  · rw [if_pos hd, Option.ite_none_right_eq_some, Option.some.injEq]
    constructor
    · rintro ⟨hle, rfl⟩
      exact ⟨hd, rfl, hle⟩
    · rintro ⟨-, rfl, hle⟩
      exact ⟨hle, rfl⟩
  · rw [if_neg hd]
    exact iff_of_false (Option.some_ne_none n).symm fun h => hd h.1

/-- A number that has grown beyond the words does not come back, so only the last one counts. -/
theorem foldlM_appendDigit_iff {ds : List Char} {n : Nat} : ds.foldlM appendDigit 0 = some n ↔
    (∀ d ∈ ds, d.isDigit) ∧ Nat.ofDigitChars 10 ds 0 = n ∧ n ≤ maxStatus := by
  induction ds using List.reverseRecOn generalizing n with
  | nil =>
      rw [List.foldlM_nil, Nat.ofDigitChars_nil]
      constructor
      · intro h
        cases h
        exact ⟨List.forall_mem_nil _, rfl, Nat.zero_le _⟩
      · rintro ⟨-, rfl, -⟩
        rfl
  | append_singleton ds d ih =>
      have hvalue : Nat.ofDigitChars 10 (ds ++ [d]) 0
          = 10 * Nat.ofDigitChars 10 ds 0 + (d.toNat - '0'.toNat) := by
        rw [Nat.ofDigitChars_append, Nat.ofDigitChars_cons, Nat.ofDigitChars_nil]
      rw [List.foldlM_append, Option.bind_eq_bind, Option.bind_eq_some_iff, hvalue,
        List.forall_mem_append, List.forall_mem_singleton]
      simp only [ih, List.foldlM_cons, List.foldlM_nil, bind_pure, appendDigit_eq_some_iff]
      constructor
      · rintro ⟨m, ⟨hds, rfl, -⟩, hd, hn, hle⟩
        exact ⟨⟨hds, hd⟩, hn, hle⟩
      · rintro ⟨⟨hds, hd⟩, hn, hle⟩
        exact ⟨_, ⟨hds, rfl, by omega⟩, hd, hn, hle⟩

theorem ofDigits?_eq_some_iff {ds : List Char} {n : Nat} :
    ofDigits? ds = some n ↔ IsDecimal ds n ∧ n ≤ maxStatus := by
  cases ds with
  | nil => exact iff_of_false (Option.some_ne_none n).symm fun h => h.1.nonempty rfl
  | cons d ds =>
      have hread : ofDigits? (d :: ds) = (d :: ds).foldlM appendDigit 0 := rfl
      rw [hread, foldlM_appendDigit_iff]
      constructor
      · rintro ⟨hds, hn, hle⟩
        exact ⟨⟨List.cons_ne_nil d ds, hds, hn⟩, hle⟩
      · rintro ⟨⟨-, hds, hn⟩, hle⟩
        exact ⟨hds, hn, hle⟩

/-- Only what begins with a plus sign loses one. -/
theorem ofKey?_eq_some_iff_ofDigits? {key : List Char} {n : Nat} : ofKey? key = some n ↔
    ∃ sign ds, Text.trim key = sign ++ ds ∧ (sign = [] ∨ sign = ['+']) ∧
      ofDigits? ds = some n := by
  unfold ofKey?
  constructor
  · intro h
    split at h
    · rename_i ds htrim
      exact ⟨['+'], ds, htrim, .inr rfl, h⟩
    · exact ⟨[], _, rfl, .inl rfl, h⟩
  · rintro ⟨sign, ds, htrim, rfl | rfl, hread⟩
    · -- a plus sign is no digit
      have hplus : ∀ rest, ds ≠ '+' :: rest := by
        rintro rest rfl
        have hdigit := (ofDigits?_eq_some_iff.mp hread).1.digits '+' List.mem_cons_self
        exact absurd hdigit (by decide)
      rw [List.nil_append] at htrim
      rw [htrim]
      split
      · exact absurd rfl (hplus _)
      · exact hread
    · rw [htrim]
      exact hread

/-- A key is read as the number that it stands for, if that is not beyond the words. -/
theorem ofKey?_eq_some_iff {key : List Char} {n : Nat} :
    ofKey? key = some n ↔ StandsFor key n ∧ n ≤ maxStatus := by
  rw [ofKey?_eq_some_iff_ofDigits?]
  simp only [StandsFor, Text.isTrimmed_iff, ofDigits?_eq_some_iff]
  constructor
  · rintro ⟨sign, ds, htrim, hsign, hds, hle⟩
    exact ⟨⟨sign, ds, htrim, hsign, hds⟩, hle⟩
  · rintro ⟨⟨sign, ds, htrim, hsign, hds⟩, hle⟩
    exact ⟨sign, ds, htrim, hsign, hds, hle⟩

/-! ## Words of 16 bits -/

/-- The result of an operation on words, which may have lost its upper bits, if it is exact. -/
def exactWord (exact : Nat) (result : UInt16) : Option UInt16 :=
  if exact ≤ maxStatus then some result else none

/-- Appends a decimal digit to a word: ten times the word, and then that plus the digit. -/
def appendToWord (w : UInt16) (c : Char) : Option UInt16 :=
  if c.isDigit then do
    let digit := UInt16.ofNat (c.toNat - '0'.toNat)
    let tens ← exactWord (10 * w.toNat) (10 * w)
    exactWord (tens.toNat + digit.toNat) (tens + digit)
  else none

/-- The word that a text of digits, and nothing else, stands for. -/
def wordOfDigits? : List Char → Option UInt16
  | [] => none
  | ds => ds.foldlM appendToWord 0

/-- The word that a key stands for. -/
def wordOfKey? (key : List Char) : Option UInt16 :=
  match Text.trim key with
  | '+' :: ds => wordOfDigits? ds
  | ds => wordOfDigits? ds

theorem toNat_le_maxStatus (w : UInt16) : w.toNat ≤ maxStatus := Nat.le_of_lt_succ w.toNat_lt

theorem toNat_ofNat_of_le {n : Nat} (h : n ≤ maxStatus) : (UInt16.ofNat n).toNat = n :=
  UInt16.toNat_ofNat_of_lt' (Nat.lt_succ_of_le h)

theorem exactWord_eq_some_iff {exact : Nat} {result w : UInt16}
    (hresult : result.toNat = exact % UInt16.size) :
    exactWord exact result = some w ↔ exact = w.toNat := by
  have hfits : ∀ n ≤ maxStatus, n % UInt16.size = n := fun n h => Nat.mod_eq_of_lt (Nat.lt_succ_of_le h)
  rw [exactWord, Option.ite_none_right_eq_some, Option.some.injEq, ← UInt16.toNat_inj, hresult]
  constructor
  · rintro ⟨hle, hw⟩
    rwa [hfits exact hle] at hw
  · intro h
    have hle : exact ≤ maxStatus := h ▸ toNat_le_maxStatus w
    exact ⟨hle, by rw [hfits exact hle, h]⟩

/-- A digit is appended to a word as it is to its number. -/
theorem appendToWord_eq_some_iff {v w : UInt16} {c : Char} :
    appendToWord v c = some w ↔ appendDigit v.toNat c = some w.toNat := by
  rw [appendDigit_eq_some_iff, appendToWord]
  by_cases hc : c.isDigit
  · have hdigit : (UInt16.ofNat (c.toNat - '0'.toNat)).toNat = c.toNat - '0'.toNat := by
      have hnine : c.toNat ≤ 57 := (Char.isDigit_iff_toNat.mp hc).2
      exact toNat_ofNat_of_le (by unfold maxStatus; omega)
    generalize UInt16.ofNat (c.toNat - '0'.toNat) = digit at hdigit ⊢
    have hmul : (10 * v).toNat = (10 * v.toNat) % UInt16.size := UInt16.toNat_mul 10 v
    have hadd : ∀ tens : UInt16, (tens + digit).toNat = (tens.toNat + digit.toNat) % UInt16.size :=
      fun tens => UInt16.toNat_add tens digit
    rw [if_pos hc, ← hdigit]
    simp only [Option.bind_eq_bind, Option.bind_eq_some_iff, exactWord_eq_some_iff hmul,
      exactWord_eq_some_iff (hadd _)]
    constructor
    · rintro ⟨tens, htens, hsum⟩
      exact ⟨hc, by rw [htens, hsum], toNat_le_maxStatus w⟩
    · -- the sum is a word, and so is the product before it
      rintro ⟨-, hsum, hle⟩
      have htens := toNat_ofNat_of_le (n := 10 * v.toNat) (by omega)
      exact ⟨UInt16.ofNat (10 * v.toNat), htens.symm, by rw [htens, hsum]⟩
  · rw [if_neg hc]
    exact iff_of_false (Option.some_ne_none w).symm fun h => hc h.1

theorem foldlM_appendToWord_iff {ds : List Char} {v w : UInt16} :
    ds.foldlM appendToWord v = some w ↔ ds.foldlM appendDigit v.toNat = some w.toNat := by
  induction ds generalizing v with
  | nil =>
      show some v = some w ↔ some v.toNat = some w.toNat
      rw [Option.some.injEq, Option.some.injEq, UInt16.toNat_inj]
  | cons d ds ih =>
      rw [List.foldlM_cons, List.foldlM_cons, Option.bind_eq_bind, Option.bind_eq_bind,
        Option.bind_eq_some_iff, Option.bind_eq_some_iff]
      constructor
      · rintro ⟨u, hd, hds⟩
        exact ⟨u.toNat, appendToWord_eq_some_iff.mp hd, ih.mp hds⟩
      · rintro ⟨m, hd, hds⟩
        -- what has been read is a word, so it is the number of one
        have hm := toNat_ofNat_of_le (appendDigit_eq_some_iff.mp hd).2.2
        rw [← hm] at hd hds
        exact ⟨UInt16.ofNat m, appendToWord_eq_some_iff.mpr hd, ih.mpr hds⟩

theorem wordOfDigits?_eq_some_iff {ds : List Char} {w : UInt16} :
    wordOfDigits? ds = some w ↔ ofDigits? ds = some w.toNat := by
  cases ds with
  | nil => exact iff_of_false (Option.some_ne_none _).symm (Option.some_ne_none _).symm
  | cons d ds => exact foldlM_appendToWord_iff (v := 0)

/-- Words are read as numbers are. -/
theorem wordOfKey?_eq_some_iff {key : List Char} {w : UInt16} :
    wordOfKey? key = some w ↔ ofKey? key = some w.toNat := by
  unfold wordOfKey? ofKey?
  cases Text.trim key with
  | nil => exact wordOfDigits?_eq_some_iff
  | cons c ds =>
      by_cases hc : c = '+'
      · subst hc
        exact wordOfDigits?_eq_some_iff
      · simpa [hc] using wordOfDigits?_eq_some_iff

/-! ## Success -/

/-- **Which keys mean success.**  A key does if and only if it stands for a number from 200 to 299,
with any number of leading zeros.  Read with words of 16 bits, in which no step may overflow, a key
is the word of the number that it stands for, or nothing: no number beyond the words is taken for
another one. -/
theorem isSuccess_iff (key : String) :
    (isSuccess key ↔ ∃ n, StandsFor key.toList n ∧ 200 ≤ n ∧ n < 300) ∧
      (∀ w, wordOfKey? key.toList = some w ↔ StandsFor key.toList w.toNat) ∧
      (isSuccess key ↔ ∃ w, wordOfKey? key.toList = some w ∧ 200 ≤ w ∧ w < 300) := by
  have hword : ∀ w, wordOfKey? key.toList = some w ↔ StandsFor key.toList w.toNat := by
    intro w
    rw [wordOfKey?_eq_some_iff, ofKey?_eq_some_iff, and_iff_left (toNat_le_maxStatus w)]
  have hsuccess : isSuccess key ↔ ∃ n, StandsFor key.toList n ∧ 200 ≤ n ∧ n < 300 := by
    rw [isSuccess, Option.any_eq_true]
    simp only [ofKey?_eq_some_iff, Bool.and_eq_true, decide_eq_true_iff]
    constructor
    · rintro ⟨n, ⟨hkey, -⟩, hrange⟩
      exact ⟨n, hkey, hrange⟩
    · -- a number in the range is a word
      rintro ⟨n, hkey, hlow, hhigh⟩
      exact ⟨n, ⟨hkey, by unfold maxStatus; omega⟩, hlow, hhigh⟩
  refine ⟨hsuccess, hword, hsuccess.trans ?_⟩
  simp only [hword, UInt16.le_iff_toNat_le, UInt16.lt_iff_toNat_lt]
  constructor
  · rintro ⟨n, hkey, hlow, hhigh⟩
    have hn := toNat_ofNat_of_le (n := n) (by unfold maxStatus; omega)
    exact ⟨UInt16.ofNat n, hn.symm ▸ hkey, hn.symm ▸ hlow, hn.symm ▸ hhigh⟩
  · rintro ⟨w, hkey, hlow, hhigh⟩
    exact ⟨w.toNat, hkey, hlow, hhigh⟩

-- Zeros in front do not count, and 65736 is 200 more than there are words.
example : isSuccess "\u3000+000000204\n" ∧ ¬ isSuccess "65736" ∧ ¬ isSuccess "2 00" := by
  decide +kernel

end Status

end ApiProto
