import Mathlib.Data.String.Basic
import PathVersions.Proofs.Utf8.RawText

/-!
# The order of bytes

Texts compare by their characters as they compare by their bytes: of two characters the smaller one
has an encoding that comes first, whatever stands after the two.
-/

namespace PathVersions
namespace RawText

theorem ofNat_lt_ofNat_iff {number other : Nat} (small : number < 256) (otherSmall : other < 256) :
    UInt8.ofNat number < UInt8.ofNat other ↔ number < other := by
  rw [UInt8.lt_iff_toNat_lt, toNat_ofNat small, toNat_ofNat otherSmall]

theorem ofNat_eq_ofNat_iff {number other : Nat} (small : number < 256) (otherSmall : other < 256) :
    UInt8.ofNat number = UInt8.ofNat other ↔ number = other := by
  rw [ofNat_eq_iff small, toNat_ofNat otherSmall]

/-- Numbers compare by their digits to the base 64, of which the first one may be larger. -/
theorem digits_lt {number other : Nat} (less : number < other) :
    number / 262144 < other / 262144 ∨ number / 262144 = other / 262144 ∧
      (number / 4096 % 64 < other / 4096 % 64 ∨ number / 4096 % 64 = other / 4096 % 64 ∧
        (number / 64 % 64 < other / 64 % 64 ∨ number / 64 % 64 = other / 64 % 64 ∧
          number % 64 < other % 64)) := by
  have digits (n : Nat) :
      n = n / 262144 * 262144 + n / 4096 % 64 * 4096 + n / 64 % 64 * 64 + n % 64 := by
    omega
  have small (n : Nat) : n / 4096 % 64 < 64 ∧ n / 64 % 64 < 64 ∧ n % 64 < 64 := by
    omega
  have whole := digits number
  have otherWhole := digits other
  have bounds := small number
  have otherBounds := small other
  generalize number / 262144 = first, number / 4096 % 64 = second, number / 64 % 64 = third,
    number % 64 = fourth at *
  generalize other / 262144 = otherFirst, other / 4096 % 64 = otherSecond,
    other / 64 % 64 = otherThird, other % 64 = otherFourth at *
  omega

theorem encode_append_lt
    {first second : Char}
    (less : first < second)
    (rest others : List UInt8) :
    String.utf8EncodeChar first ++ rest < String.utf8EncodeChar second ++ others := by
  have smaller : first.val.toNat < second.val.toNat := less
  have bound := toNat_val_lt first
  have otherBound := toNat_val_lt second
  rw [String.utf8EncodeChar.eq_1, String.utf8EncodeChar.eq_1]
  generalize first.val.toNat = number at *
  generalize second.val.toNat = other at *
  -- The digits only matter between two characters of four bytes.
  have digits := digits_lt smaller
  have lead : number / 262144 % 8 = number / 262144 := Nat.mod_eq_of_lt (by omega)
  have otherLead : other / 262144 % 8 = other / 262144 := Nat.mod_eq_of_lt (by omega)
  rw [lead, otherLead]
  split_ifs <;>
    simp (disch := omega) only [List.cons_append, List.nil_append, List.cons_lt_cons_iff,
      ofNat_lt_ofNat_iff, ofNat_eq_ofNat_iff] <;>
    omega

theorem flatMap_encode_lt
    {chars others : List Char}
    (less : chars < others) :
    chars.flatMap String.utf8EncodeChar < others.flatMap String.utf8EncodeChar := by
  induction chars generalizing others with
  | nil =>
      cases others with
      | nil => simp at less
      | cons other others =>
          cases encoded : String.utf8EncodeChar other with
          | nil => exact absurd encoded String.utf8EncodeChar_ne_nil
          | cons byte bytes =>
              rw [List.flatMap_cons, encoded]
              exact List.nil_lt_cons _ _
  | cons c chars inductionHypothesis =>
      cases others with
      | nil => simp at less
      | cons other others =>
          rw [List.flatMap_cons, List.flatMap_cons]
          obtain first | ⟨rfl, rest⟩ := List.cons_lt_cons_iff.mp less
          · exact encode_append_lt first _ _
          · exact List.append_left_lt (inductionHypothesis rest)

/-- The order of texts is the order of their bytes. -/
theorem bytes_ofString_lt_iff (left right : String) :
    (ofString left).bytes < (ofString right).bytes ↔ left < right := by
  have forward {left right : String} (less : left < right) :
      (ofString left).bytes < (ofString right).bytes :=
    flatMap_encode_lt (String.lt_iff_toList_lt.mp less)
  constructor
  · intro less
    by_contra notLess
    obtain rfl | greater := (not_lt.mp notLess).eq_or_lt
    · exact List.lt_irrefl _ less
    · exact List.lt_asymm less (forward greater)
  · exact forward

end RawText
end PathVersions
