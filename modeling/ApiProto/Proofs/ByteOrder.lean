/-
  Texts are ordered as their bytes are.

  Strings are compared character by character.  In UTF-8 that is the order of their bytes
  (`bytes_lt_iff`): a character that takes more bytes has a greater first one, and among those of
  one length the bytes hold the digits of the code point to the base 64, the highest one first.
-/
import Mathlib.Data.List.Lex
import Mathlib.Data.String.Basic

namespace ApiProto.Text

/-- The bytes of a text in UTF-8. -/
def bytes (s : String) : List UInt8 := s.toUTF8.data.toList

theorem bytes_eq_flatMap (s : String) : bytes s = s.toList.flatMap String.utf8EncodeChar := by
  have h : s.toUTF8 = s.toList.utf8Encode := by simp
  rw [bytes, h, List.utf8Encode, List.toList_data_toByteArray]

/-- Numbers are compared by their digits to the base 64. -/
theorem lt_iff_div_mod (m n : Nat) :
    m < n ↔ m / 64 < n / 64 ∨ m / 64 = n / 64 ∧ m % 64 < n % 64 := by
  omega

theorem toNat_lt (c : Char) : c.toNat < 0x110000 := by
  rcases c.valid with hlow | ⟨-, hhigh⟩
  · exact Nat.lt_trans hlow (by decide)
  · exact hhigh

/-- The bytes of two characters decide, whatever follows them. -/
theorem utf8EncodeChar_append_lt {c d : Char} (h : c < d) (as bs : List UInt8) :
    String.utf8EncodeChar c ++ as < String.utf8EncodeChar d ++ bs := by
  have hlt : c.val.toNat < d.val.toNat := h
  have hd : d.val.toNat < 0x110000 := toNat_lt d
  -- the bytes hold up to four digits to the base 64
  have hdigits := (lt_iff_div_mod c.val.toNat d.val.toNat).mp hlt
  rw [lt_iff_div_mod (_ / 64) (_ / 64), lt_iff_div_mod (_ / 64 / 64) (_ / 64 / 64)] at hdigits
  have hdiv : ∀ n, n / 4096 = n / 64 / 64 ∧ n / 262144 = n / 64 / 64 / 64 := by omega
  unfold String.utf8EncodeChar
  generalize c.val.toNat = m at hlt hdigits
  generalize d.val.toNat = n at hlt hd hdigits
  simp only [(hdiv m).1, (hdiv m).2, (hdiv n).1, (hdiv n).2]
  -- one case for every pair of lengths
  repeat' split
  all_goals
    simp only [List.cons_append, List.cons_lt_cons_iff, UInt8.lt_iff_toNat_lt, ← UInt8.toNat_inj,
      UInt8.toNat_ofNat']
    omega

theorem flatMap_utf8EncodeChar_lt {cs ds : List Char} (h : cs < ds) :
    cs.flatMap String.utf8EncodeChar < ds.flatMap String.utf8EncodeChar := by
  induction h with
  | @nil d ds =>
      obtain ⟨b, bs, hd⟩ := List.exists_cons_of_ne_nil (String.utf8EncodeChar_ne_nil (c := d))
      rw [List.flatMap_cons, hd]
      exact List.nil_lt_cons ..
  | rel hcd => exact utf8EncodeChar_append_lt hcd ..
  | cons _ ih => exact List.append_left_lt ih

/-- Two texts stand in the order of their bytes. -/
theorem bytes_lt_iff {s t : String} : bytes s < bytes t ↔ s < t := by
  have hmono : ∀ {s t : String}, s < t → bytes s < bytes t := by
    intro s t h
    rw [bytes_eq_flatMap, bytes_eq_flatMap]
    exact flatMap_utf8EncodeChar_lt h
  refine ⟨fun h => ?_, hmono⟩
  rcases lt_trichotomy s t with hlt | rfl | hgt
  · exact hlt
  · exact absurd h (List.lt_irrefl _)
  · exact absurd (hmono hgt) (List.lt_asymm h)

end ApiProto.Text
