import Mathlib.Data.String.Basic
import Mathlib.Tactic.SplitIfs

/-!
# The order of texts is that of their bytes

Texts are compared character by character. Here this is shown to be the same as to compare their
UTF-8 bytes one by one (`bytes_lt_iff`), whatever their characters are.

The reason is that two different characters already differ in a byte that both of them have, and
that the lesser character has the lesser byte there (`utf8EncodeChar_append_lt`): a character with
more bytes has a greater first byte, and characters with as many bytes are written to the base 64.
-/

namespace Specimen.Text

/-- The bytes of a text in UTF-8. -/
def bytes (s : String) : List UInt8 := s.toByteArray.data.toList

theorem bytes_eq_flatMap (s : String) : bytes s = s.toList.flatMap String.utf8EncodeChar := by
  conv_lhs => rw [← String.ofList_toList (s := s)]
  rw [bytes, String.toByteArray_ofList, List.utf8Encode, List.toList_data_toByteArray]

/-! ### Single characters -/

/-- To the base 64 the last digit decides between two numbers only if the others are the same. -/
theorem lt_base {m n : Nat} (h : m < n) :
    m / 64 < n / 64 ∨ m / 64 = n / 64 ∧ m % 64 < n % 64 := by
  omega

theorem ofNat_cons_lt_iff {x y : Nat} (h_x : x < 256) (h_y : y < 256) {s t : List UInt8} :
    UInt8.ofNat x :: s < UInt8.ofNat y :: t ↔ x < y ∨ x = y ∧ s < t := by
  rw [List.cons_lt_cons_iff, UInt8.lt_iff_toNat_lt, ← UInt8.toNat_inj,
    UInt8.toNat_ofNat_of_lt' h_x, UInt8.toNat_ofNat_of_lt' h_y]

/-- **Single characters.** The bytes of two characters decide, whatever follows them. -/
theorem utf8EncodeChar_append_lt {a b : Char} (h : a < b) (s t : List UInt8) :
    String.utf8EncodeChar a ++ s < String.utf8EncodeChar b ++ t := by
  have h_lt : a.val.toNat < b.val.toNat := h
  have h_last : b.val.toNat < 0x110000 := by
    rcases b.valid with h_b | h_b
    · exact Nat.lt_trans h_b (by decide)
    · exact h_b.2
  unfold String.utf8EncodeChar
  generalize a.val.toNat = m at h_lt
  generalize b.val.toNat = n at h_lt h_last
  -- the digits to the base 64, from the last one to the first one
  have h_digit := lt_base h_lt
  have h_digit' : m / 64 < n / 64 → _ := lt_base
  have h_digit'' : m / 64 / 64 < n / 64 / 64 → _ := lt_base
  simp only [Nat.div_div_eq_div_mul, Nat.reduceMul] at h_digit' h_digit''
  have h_m : m / 262144 % 8 = m / 262144 := Nat.mod_eq_of_lt (by omega)
  have h_n : n / 262144 % 8 = n / 262144 := Nat.mod_eq_of_lt (by omega)
  dsimp only
  -- one case for each pair of lengths
  split_ifs <;>
    simp (disch := omega) only [List.cons_append, List.nil_append, ofNat_cons_lt_iff,
      Nat.add_lt_add_iff_right, Nat.add_right_cancel_iff, h_m, h_n] <;>
    omega

/-! ### Texts -/

theorem flatMap_utf8EncodeChar_lt {cs ds : List Char} (h : cs < ds) :
    cs.flatMap String.utf8EncodeChar < ds.flatMap String.utf8EncodeChar := by
  induction h with
  | @nil d ds =>
    obtain ⟨x, xs, h_x⟩ := List.exists_cons_of_ne_nil (String.utf8EncodeChar_ne_nil (c := d))
    rw [List.flatMap_nil, List.flatMap_cons, h_x]
    exact List.nil_lt_cons _ _
  | rel h =>
    rw [List.flatMap_cons, List.flatMap_cons]
    exact utf8EncodeChar_append_lt h _ _
  | cons _ ih =>
    rw [List.flatMap_cons, List.flatMap_cons]
    exact List.append_left_lt ih

theorem bytes_lt {s t : String} (h : s < t) : bytes s < bytes t := by
  rw [bytes_eq_flatMap, bytes_eq_flatMap]
  exact flatMap_utf8EncodeChar_lt (String.lt_iff_toList_lt.1 h)

/-- **Bytes.** A text comes before another one exactly if its bytes come before those of the
other one. -/
theorem bytes_lt_iff {s t : String} : bytes s < bytes t ↔ s < t := by
  refine ⟨fun h => ?_, bytes_lt⟩
  rcases lt_trichotomy s t with h_lt | rfl | h_gt
  · exact h_lt
  · exact absurd h (List.lt_irrefl _)
  · exact absurd h (List.lt_asymm (bytes_lt h_gt))

end Specimen.Text
