/-
# The order of texts and of their bytes

Texts are ordered by their code points.  In UTF-8 a smaller character comes before a larger one by
the first byte in which the two differ (`utf8EncodeChar_append_lt`), so this is the order of the
bytes as well (`bytes_lt_bytes_iff`).
-/
import Mathlib.Data.String.Basic

namespace CompositeBuild.Text

open String (utf8EncodeChar)

/-- The bytes of a text in UTF-8. -/
def bytes (s : String) : List UInt8 := s.toUTF8.data.toList

/-- The bytes of a text are those of its characters. -/
theorem bytes_eq_flatMap (s : String) : bytes s = s.toList.flatMap utf8EncodeChar := by
  have hencode : s.toUTF8 = (s.toList.flatMap utf8EncodeChar).toByteArray := by
    rw [String.toUTF8_eq_toByteArray]
    conv_lhs => rw [← String.ofList_toList (s := s), String.toByteArray_ofList]
    rfl
  rw [bytes, hencode, List.data_toByteArray]

/-- A number is smaller than another by its higher digits, or by the last of them if these are
equal. -/
theorem div_lt_div_or {k m n : Nat} (h : m / k < n / k) :
    m / (k * 64) < n / (k * 64) ∨ m / (k * 64) = n / (k * 64) ∧ m / k % 64 < n / k % 64 := by
  rw [← Nat.div_div_eq_div_mul, ← Nat.div_div_eq_div_mul]
  omega

/-- A character comes before a larger one in UTF-8, whatever follows them. -/
theorem utf8EncodeChar_append_lt {c d : Char} (h : c < d) (xs ys : List UInt8) :
    utf8EncodeChar c ++ xs < utf8EncodeChar d ++ ys := by
  have hlt : c.val.toNat < d.val.toNat := h
  have hd : d.val.toNat < 0x110000 := by
    have hvalid := d.valid
    unfold UInt32.isValidChar Nat.isValidChar at hvalid
    omega
  unfold utf8EncodeChar
  generalize c.val.toNat = m at hlt
  generalize d.val.toNat = n at hlt hd
  -- In encodings of one length the first digit in which the characters differ decides.
  have hdigits : m / 262144 < n / 262144 ∨
      m / 262144 = n / 262144 ∧ m / 4096 % 64 < n / 4096 % 64 ∨
      m / 4096 = n / 4096 ∧ m / 64 % 64 < n / 64 % 64 ∨ m / 64 = n / 64 ∧ m % 64 < n % 64 := by
    rcases div_lt_div_or (k := 1) (by omega : m / 1 < n / 1) with h₁ | h₁
    · rcases div_lt_div_or h₁ with h₂ | h₂
      · rcases div_lt_div_or h₂ with h₃ | h₃
        · exact .inl h₃
        · exact .inr (.inl h₃)
      · exact .inr (.inr (.inl h₂))
    · exact .inr (.inr (.inr (by simpa using h₁)))
  -- A longer encoding has a larger first byte.
  simp only
  split_ifs <;>
    simp (disch := omega) only [List.cons_append, List.nil_append, List.cons_lt_cons_iff,
      UInt8.lt_iff_toNat_lt, ← UInt8.toNat_inj, UInt8.toNat_ofNat', Nat.mod_eq_of_lt] <;>
    omega

/-- A text comes before a larger one by its bytes. -/
theorem bytes_lt_bytes {s t : String} (h : s < t) : bytes s < bytes t := by
  have hchars (cs ds : List Char) (h : cs < ds) :
      cs.flatMap utf8EncodeChar < ds.flatMap utf8EncodeChar := by
    induction h with
    | @nil d ds =>
      obtain ⟨b, bs, hd⟩ := List.exists_cons_of_ne_nil (String.utf8EncodeChar_ne_nil (c := d))
      rw [List.flatMap_nil, List.flatMap_cons, hd]
      exact List.nil_lt_cons _ _
    | cons _ ih =>
      rw [List.flatMap_cons, List.flatMap_cons]
      exact List.append_left_lt ih
    | rel h =>
      rw [List.flatMap_cons, List.flatMap_cons]
      exact utf8EncodeChar_append_lt h _ _
  rw [bytes_eq_flatMap, bytes_eq_flatMap]
  exact hchars _ _ (String.lt_iff_toList_lt.1 h)

/-- **Texts are in the order of their bytes in UTF-8.** -/
theorem bytes_lt_bytes_iff {s t : String} : bytes s < bytes t ↔ s < t := by
  refine ⟨fun h => ?_, bytes_lt_bytes⟩
  rcases Std.lt_trichotomy s t with hlt | rfl | hgt
  · exact hlt
  · exact absurd h (List.lt_irrefl _)
  · exact absurd (List.lt_trans h (bytes_lt_bytes hgt)) (List.lt_irrefl _)

end CompositeBuild.Text
