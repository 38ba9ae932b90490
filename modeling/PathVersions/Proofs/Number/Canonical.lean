import PathVersions.Number.Binary64
import Mathlib

/-!
# Numbers have one representation

A number that is read from a decimal has a mantissa with all its bits, unless its exponent is the
least one. So two such numbers with the same value are the same, zero apart, and numbers with the
same value are written in the same way.
-/

namespace PathVersions
namespace Number

/-- The value of a number. -/
def Magnitude.value (magnitude : Magnitude) : ℚ :=
  magnitude.mantissa * (2 : ℚ) ^ magnitude.exponent

/-- Whether a number other than zero has as small an exponent as possible. -/
def Magnitude.Canonical (magnitude : Magnitude) : Prop :=
  magnitude.mantissa = 0 ∨
    (magnitude.mantissa < 2 ^ 53 ∧ leastExponent ≤ magnitude.exponent ∧
      (2 ^ 52 ≤ magnitude.mantissa ∨ magnitude.exponent = leastExponent))

namespace Magnitude

variable {left right : Magnitude}

/-- Of two canonical numbers with the same value, none has the smaller exponent. -/
theorem Canonical.exponent_le
    (canonicalLeft : left.Canonical)
    (canonicalRight : right.Canonical)
    (same : left.value = right.value)
    (nonzero : left.mantissa ≠ 0 ∧ right.mantissa ≠ 0) :
    right.exponent ≤ left.exponent := by
  by_contra smaller
  obtain ⟨high, least, _⟩ := canonicalLeft.resolve_left nonzero.1
  obtain ⟨_, _, low⟩ := canonicalRight.resolve_left nonzero.2
  have full : 2 ^ 52 ≤ right.mantissa := low.resolve_right (by omega)
  obtain ⟨shift, gap⟩ : ∃ shift : Nat, right.exponent = left.exponent + (shift + 1 : Nat) :=
    ⟨(right.exponent - left.exponent - 1).toNat, by omega⟩
  have shifted : left.mantissa = right.mantissa * 2 ^ (shift + 1) := by
    rw [value, value, gap, zpow_add₀ (by norm_num), zpow_natCast] at same
    have power : (2 : ℚ) ^ left.exponent ≠ 0 := by positivity
    have scaled : (left.mantissa : ℚ) = right.mantissa * 2 ^ (shift + 1) := by
      apply mul_right_cancel₀ power
      rw [same]
      ring
    exact_mod_cast scaled
  have doubled : 2 ≤ 2 ^ (shift + 1) := by
    rw [pow_succ]
    have positive := Nat.one_le_two_pow (n := shift)
    omega
  have many := Nat.mul_le_mul full doubled
  omega

/-- Canonical numbers with the same value are the same, unless both are zero. -/
theorem Canonical.eq_of_value_eq
    (canonicalLeft : left.Canonical)
    (canonicalRight : right.Canonical)
    (same : left.value = right.value) :
    left = right ∨ (left.mantissa = 0 ∧ right.mantissa = 0) := by
  have zero (magnitude : Magnitude) : magnitude.value = 0 ↔ magnitude.mantissa = 0 := by
    have power : (2 : ℚ) ^ magnitude.exponent ≠ 0 := by positivity
    rw [value, mul_eq_zero, or_iff_left power, Nat.cast_eq_zero]
  by_cases none : left.mantissa = 0
  · exact .inr ⟨none, (zero right).mp (same ▸ (zero left).mpr none)⟩
  · have nonzero : left.mantissa ≠ 0 ∧ right.mantissa ≠ 0 :=
      ⟨none, fun other => none ((zero left).mp (same.trans ((zero right).mpr other)))⟩
    have exponents : left.exponent = right.exponent :=
      le_antisymm (canonicalRight.exponent_le canonicalLeft same.symm nonzero.symm)
        (canonicalLeft.exponent_le canonicalRight same nonzero)
    obtain ⟨mantissa, exponent⟩ := left
    obtain ⟨mantissa', exponent'⟩ := right
    cases exponents
    have power : (2 : ℚ) ^ exponent ≠ 0 := by positivity
    have mantissas : (mantissa : ℚ) = mantissa' := mul_right_cancel₀ power same
    left
    congr 1
    exact_mod_cast mantissas

end Magnitude

/-! ## Rounding -/

section Rounding

variable {numerator denominator : Nat}

theorem scale_ratio
    (positive : 0 < denominator)
    (exponent : Int)
    (numerator : Nat) :
    0 < (scale exponent numerator denominator).2 ∧
      ((scale exponent numerator denominator).1 : ℚ) /
          (scale exponent numerator denominator).2 =
        numerator / denominator * 2 ^ (-exponent) := by
  cases exponent with
  | ofNat shift =>
      refine ⟨Nat.mul_pos positive (Nat.two_pow_pos shift), ?_⟩
      simp only [scale, Nat.pow_eq, Nat.cast_mul, Nat.cast_pow, Nat.cast_ofNat,
        Int.ofNat_eq_natCast, zpow_neg, zpow_natCast]
      rw [div_mul_eq_div_div, div_eq_mul_inv]
  | negSucc shift =>
      refine ⟨positive, ?_⟩
      simp only [scale, Nat.pow_eq, Nat.cast_mul, Nat.cast_pow, Nat.cast_ofNat, Int.neg_negSucc]
      rw [mul_div_right_comm]
      norm_cast

/-- A quotient lies between the powers of two that the lengths of its terms tell. -/
theorem quotient_bounds
    (positiveNumerator : 0 < numerator)
    (positiveDenominator : 0 < denominator) :
    (2 : ℚ) ^ ((numerator.log2 : Int) - denominator.log2 - 1) < numerator / denominator ∧
      (numerator / denominator : ℚ) < 2 ^ ((numerator.log2 : Int) - denominator.log2 + 1) := by
  have low : (2 : ℚ) ^ numerator.log2 ≤ numerator := by
    exact_mod_cast Nat.log2_self_le positiveNumerator.ne'
  have high : (numerator : ℚ) < 2 ^ (numerator.log2 + 1) := by
    exact_mod_cast Nat.lt_log2_self
  have low' : (2 : ℚ) ^ denominator.log2 ≤ denominator := by
    exact_mod_cast Nat.log2_self_le positiveDenominator.ne'
  have high' : (denominator : ℚ) < 2 ^ (denominator.log2 + 1) := by
    exact_mod_cast Nat.lt_log2_self
  have positive : (0 : ℚ) < denominator := by exact_mod_cast positiveDenominator
  constructor
  · rw [lt_div_iff₀ positive]
    calc
      (2 : ℚ) ^ ((numerator.log2 : Int) - denominator.log2 - 1) * denominator
      _ < 2 ^ ((numerator.log2 : Int) - denominator.log2 - 1) * 2 ^ (denominator.log2 + 1) :=
        mul_lt_mul_of_pos_left high' (by positivity)
      _ = 2 ^ numerator.log2 := by
        rw [← zpow_natCast, ← zpow_natCast, ← zpow_add₀ (by norm_num)]
        congr 1
        push_cast
        ring
      _ ≤ numerator := low
  · rw [div_lt_iff₀ positive]
    calc
      (numerator : ℚ)
      _ < 2 ^ (numerator.log2 + 1) := high
      _ = 2 ^ ((numerator.log2 : Int) - denominator.log2 + 1) * 2 ^ denominator.log2 := by
        rw [← zpow_natCast, ← zpow_natCast, ← zpow_add₀ (by norm_num)]
        congr 1
        push_cast
        ring
      _ ≤ 2 ^ ((numerator.log2 : Int) - denominator.log2 + 1) * denominator :=
        mul_le_mul_of_nonneg_left low' (by positivity)

/-- The exponent at which a quotient seems to have all bits of a mantissa, by the lengths of its
terms. -/
def guessedExponent (numerator denominator : Nat) : Int :=
  (numerator.log2 : Int) - (denominator.log2 : Int) - (precision - 1 : Nat)

/-- At the guessed exponent a quotient has all bits of a mantissa, or lacks one. -/
theorem ratio_guessedExponent
    (positiveNumerator : 0 < numerator)
    (positiveDenominator : 0 < denominator) :
    let ratio : ℚ := numerator / denominator * 2 ^ (-guessedExponent numerator denominator)
    2 ^ 51 < ratio ∧ ratio < 2 ^ 53 := by
  obtain ⟨low, high⟩ := quotient_bounds positiveNumerator positiveDenominator
  have guess : guessedExponent numerator denominator =
      (numerator.log2 : Int) - denominator.log2 - 52 := rfl
  have power : (0 : ℚ) < 2 ^ (-guessedExponent numerator denominator) := by positivity
  constructor
  · calc
      (2 : ℚ) ^ 51 = 2 ^ ((numerator.log2 : Int) - denominator.log2 - 1) *
          2 ^ (-guessedExponent numerator denominator) := by
        rw [← zpow_natCast, ← zpow_add₀ (by norm_num)]
        congr 1
        push_cast
        omega
      _ < _ := mul_lt_mul_of_pos_right low power
  · calc
      _ < (2 : ℚ) ^ ((numerator.log2 : Int) - denominator.log2 + 1) *
          2 ^ (-guessedExponent numerator denominator) := mul_lt_mul_of_pos_right high power
      _ = 2 ^ 53 := by
        rw [← zpow_natCast, ← zpow_add₀ (by norm_num)]
        congr 1
        push_cast
        omega

/-- Unless it is raised to the least one, the exponent of a quotient is the one at which the
quotient has all bits of a mantissa. -/
theorem exists_exactExponent
    (positiveNumerator : 0 < numerator)
    (positiveDenominator : 0 < denominator) :
    ∃ exact : Int, exponentOf numerator denominator = max exact leastExponent ∧
      (2 : ℚ) ^ 52 ≤ numerator / denominator * 2 ^ (-exact) ∧
        (numerator / denominator * 2 ^ (-exact) : ℚ) < 2 ^ 53 := by
  obtain ⟨low, high⟩ := ratio_guessedExponent positiveNumerator positiveDenominator
  refine ⟨_, rfl, ?_⟩
  set guess := guessedExponent numerator denominator with guessIs
  rw [guessedExponent] at guessIs
  simp only [← guessIs]
  set quotient : ℚ := numerator / denominator
  obtain ⟨unit, scaled⟩ := scale_ratio positiveDenominator guess numerator
  have few : (scale guess numerator denominator).1 / (scale guess numerator denominator).2 <
      Nat.pow 2 (precision - 1) ↔ quotient * 2 ^ (-guess) < 2 ^ 52 := by
    rw [← scaled, Nat.div_lt_iff_lt_mul unit, div_lt_iff₀ (by exact_mod_cast unit)]
    exact_mod_cast Iff.rfl
  split_ifs with less
  · have doubled : quotient * 2 ^ (-(guess - 1)) = quotient * 2 ^ (-guess) * 2 := by
      rw [neg_sub, sub_eq_add_neg, add_comm, zpow_add₀ (by norm_num), zpow_one, mul_assoc]
    have upper := few.mp less
    rw [doubled]
    constructor <;> linarith
  · exact ⟨not_lt.mp fun upper => less (few.mpr upper), high⟩

/-- At a greater exponent a number has fewer bits. -/
theorem ratio_of_lt
    {ratio : ℚ}
    {exact greater : Int}
    (positive : 0 ≤ ratio)
    (above : exact < greater)
    (bound : ratio * 2 ^ (-exact) < 2 ^ 53) :
    ratio * 2 ^ (-greater) < 2 ^ 52 := by
  obtain ⟨shift, gap⟩ : ∃ shift : Nat, greater = exact + (shift + 1 : Nat) :=
    ⟨(greater - exact - 1).toNat, by omega⟩
  have shifted : ratio * 2 ^ (-greater) * 2 ^ (shift + 1) = ratio * 2 ^ (-exact) := by
    rw [mul_assoc, ← zpow_natCast (2 : ℚ), ← zpow_add₀ (by norm_num)]
    congr 2
    omega
  have doubled : (2 : ℚ) ≤ 2 ^ (shift + 1) := by
    rw [pow_succ]
    linarith [one_le_pow₀ (n := shift) (one_le_two (α := ℚ))]
  have least : 0 ≤ ratio * 2 ^ (-greater) := by positivity
  nlinarith

/-- At its exponent a quotient has as many bits as a mantissa, or fewer if the exponent is the
least one. -/
theorem exponentOf_spec
    (positiveNumerator : 0 < numerator)
    (positiveDenominator : 0 < denominator) :
    let exponent := exponentOf numerator denominator
    let ratio : ℚ := numerator / denominator * 2 ^ (-exponent)
    leastExponent ≤ exponent ∧
      ((2 ^ 52 ≤ ratio ∧ ratio < 2 ^ 53) ∨ (exponent = leastExponent ∧ ratio < 2 ^ 52)) := by
  obtain ⟨exact, exactIs, low, high⟩ := exists_exactExponent positiveNumerator positiveDenominator
  dsimp only
  rw [exactIs]
  refine ⟨le_max_right _ _, ?_⟩
  obtain least | above := lt_or_ge exact leastExponent
  · rw [max_eq_right least.le]
    exact .inr ⟨rfl, ratio_of_lt (by positivity) least high⟩
  · rw [max_eq_left above]
    exact .inl ⟨low, high⟩

theorem roundQuotient_bounds (numerator denominator : Nat) :
    numerator / denominator ≤ roundQuotient numerator denominator ∧
      roundQuotient numerator denominator ≤ numerator / denominator + 1 := by
  rw [roundQuotient]
  split_ifs <;> omega

namespace Magnitude

theorem canonical_ofQuotient
    {magnitude : Magnitude}
    (positive : 0 < denominator)
    (known : ofQuotient? numerator denominator = some magnitude) :
    magnitude.Canonical := by
  rw [ofQuotient?] at known
  split_ifs at known with zero
  · cases known
    exact .inl rfl
  · have positiveNumerator : 0 < numerator := Nat.pos_of_ne_zero (by simpa using zero)
    obtain ⟨least, bounds⟩ := exponentOf_spec positiveNumerator positive
    set exponent := exponentOf numerator denominator
    obtain ⟨unit, scaled⟩ := scale_ratio positive exponent numerator
    rw [← scaled] at bounds
    dsimp only at known
    generalize (scale exponent numerator denominator).1 = top at *
    generalize (scale exponent numerator denominator).2 = bottom at *
    have unit' : (0 : ℚ) < bottom := by exact_mod_cast unit
    obtain ⟨lower, upper⟩ := roundQuotient_bounds top bottom
    have full (limit : Nat) : limit ≤ top / bottom ↔ (limit : ℚ) ≤ top / bottom := by
      rw [Nat.le_div_iff_mul_le unit, le_div_iff₀ unit']
      exact_mod_cast Iff.rfl
    have few (limit : Nat) : top / bottom < limit ↔ (top / bottom : ℚ) < limit := by
      rw [← not_le, full, not_le]
    right
    split_ifs at known with carries inside inside
    · cases known
      have bits : 2 ^ 52 < 2 ^ 53 := by decide
      exact ⟨bits, by dsimp only; omega, .inl (Nat.le_refl (2 ^ 52))⟩
    · cases known
      have notFull : roundQuotient top bottom ≠ 2 ^ 53 := by simpa [precision] using carries
      obtain ⟨most, under⟩ | ⟨same, under⟩ := bounds
      · have most' := (full (2 ^ 52)).mpr (by exact_mod_cast most)
        have under' := (few (2 ^ 53)).mpr (by exact_mod_cast under)
        exact ⟨by dsimp only; omega, least, .inl (by dsimp only; omega)⟩
      · have under' := (few (2 ^ 52)).mpr (by exact_mod_cast under)
        exact ⟨by dsimp only; omega, least, .inr same⟩

theorem canonical_ofDecimal
    {digits : Nat}
    {exponent : Int}
    {magnitude : Magnitude}
    (known : ofDecimal? digits exponent = some magnitude) :
    magnitude.Canonical := by
  rw [ofDecimal?.eq_def] at known
  dsimp only at known
  split_ifs at known
  · cases known
    exact .inl rfl
  · cases known
    exact .inl rfl
  · cases exponent with
    | ofNat power => exact canonical_ofQuotient Nat.one_pos known
    | negSucc power => exact canonical_ofQuotient (Nat.pow_pos (by decide)) known

end Magnitude

end Rounding

/-! ## Numbers of all kinds -/

namespace Binary64

/-- Whether a number that is finite is canonical. -/
def Canonical : Binary64 -> Prop
  | .finite _ magnitude => magnitude.Canonical
  | .infinite _ => True
  | .notNumber => True

/-- Whether two numbers are the same. The two zeros are told apart by their signs. -/
def Same : Binary64 -> Binary64 -> Prop
  | .finite negative magnitude, .finite negative' magnitude' =>
      negative = negative' ∧ magnitude.value = magnitude'.value
  | .infinite negative, .infinite negative' => negative = negative'
  | .notNumber, .notNumber => True
  | _, _ => False

/-- The same number is written in the same way. -/
theorem Same.text_eq
    {left right : Binary64}
    (same : left.Same right)
    (canonicalLeft : left.Canonical)
    (canonicalRight : right.Canonical) :
    left.text = right.text := by
  cases left with
  | finite negative magnitude =>
      cases right with
      | finite negative' magnitude' =>
          obtain ⟨rfl, value⟩ := same
          obtain rfl | ⟨none, none'⟩ :=
            Magnitude.Canonical.eq_of_value_eq canonicalLeft canonicalRight value
          · rfl
          · simp only [text, shortest, none, none', beq_self_eq_true, if_true]
      | infinite negative' => exact same.elim
      | notNumber => exact same.elim
  | infinite negative =>
      cases right with
      | infinite negative' =>
          cases same
          rfl
      | finite negative' magnitude' => exact same.elim
      | notNumber => exact same.elim
  | notNumber =>
      cases right with
      | notNumber => rfl
      | finite negative' magnitude' => exact same.elim
      | infinite negative' => exact same.elim

end Binary64
end Number
end PathVersions
