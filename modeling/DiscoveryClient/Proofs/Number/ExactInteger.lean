import DiscoveryClient.Number.Double
import DiscoveryClient.Value.Equality

/-!
# Integers among the doubles

An integer of at most 53 bits is a double, for its grid is at least as fine as
that of the integers, and on such a grid nothing is left to round.  The one
above the largest mantissa is a power of two, and a double for that reason.
-/

namespace DiscoveryClient

namespace Double

theorem roundHalfEven_one (numerator : Nat) : roundHalfEven numerator 1 = numerator := by
  simp [roundHalfEven, Nat.mod_one]

theorem scaled_one (numerator shift : Nat) :
    scaled numerator 1 (-(shift : Int)) = (numerator * Nat.pow 2 shift, 1) := by
  simp [scaled]

/-! ## Magnitudes of fewer bits than a mantissa -/

section

variable {magnitude shift : Nat} (positive : magnitude ≠ 0)
  (bits : Nat.log2 magnitude + shift + 1 = precision)
include positive bits

theorem full_mantissa : Nat.pow 2 precision ≤ magnitude * Nat.pow 2 (shift + 1) := by
  calc Nat.pow 2 precision
    _ = Nat.pow 2 (Nat.log2 magnitude + (shift + 1)) := by rw [← bits]; rfl
    _ = Nat.pow 2 (Nat.log2 magnitude) * Nat.pow 2 (shift + 1) := Nat.pow_add 2 _ _
    _ ≤ magnitude * Nat.pow 2 (shift + 1) :=
      Nat.mul_le_mul_right _ (Nat.log2_self_le positive)

omit positive in
theorem mantissa_lt : magnitude * Nat.pow 2 shift < Nat.pow 2 precision := by
  have total : Nat.log2 magnitude + 1 + shift = precision := by omega
  calc magnitude * Nat.pow 2 shift
    _ < Nat.pow 2 (Nat.log2 magnitude + 1) * Nat.pow 2 shift :=
      Nat.mul_lt_mul_of_pos_right Nat.lt_log2_self (Nat.two_pow_pos shift)
    _ = Nat.pow 2 (Nat.log2 magnitude + 1 + shift) := (Nat.pow_add 2 _ _).symm
    _ = Nat.pow 2 precision := by rw [total]

theorem gridExponent_one : gridExponent magnitude 1 = -(shift : Int) := by
  have low : (Nat.log2 magnitude : Int) - Nat.log2 1 - precision = -((shift + 1 : Nat) : Int) := by
    have none : Nat.log2 1 = 0 := rfl
    omega
  have full : ¬magnitude * Nat.pow 2 (shift + 1) < Nat.pow 2 precision :=
    Nat.not_lt.mpr (full_mantissa positive bits)
  have coarser : minExponent ≤ -(shift : Int) := by
    simp only [minExponent, precision] at bits ⊢
    omega
  simp only [gridExponent, low, scaled_one, Nat.div_one, full, if_false]
  omega

theorem ofRatio_one (negative : Bool) :
    ofRatio negative magnitude 1 = .finite negative (magnitude * Nat.pow 2 shift)
      (-(shift : Int)) := by
  have small : magnitude * Nat.pow 2 shift ≠ Nat.pow 2 precision :=
    Nat.ne_of_lt (mantissa_lt bits)
  have inRange : ¬maxExponent < -(shift : Int) := by
    simp only [maxExponent]
    omega
  simp only [ofRatio, positive, if_false, gridExponent_one positive bits, scaled_one,
    roundHalfEven_one, small, inRange]

end

/-! ## Integers of either sign -/

theorem equals_finite_int {negative : Bool} {mantissa : Nat} {exponent value : Int}
    (same : (if negative then -((mantissa * Nat.pow 2 exponent.toNat : Nat) : Int)
        else (mantissa * Nat.pow 2 exponent.toNat : Nat)) =
      value * (Nat.pow 2 (-exponent).toNat : Nat)) :
    Value.equals (.float (.finite negative mantissa exponent)) (.int value) = true := by
  have rank : (finite negative mantissa exponent).rank? =
      some (.exact (value * (Nat.pow 2 (-exponent).toNat : Nat))
        (Nat.pow 2 (-exponent).toNat)) := by
    rw [← same]
    rfl
  simp [Value.equals, Value.equalsNumber, Value.rank?, Value.integer?, rank, Rank.isLevel,
    Rank.isBelow]

/-- The double of an integer and the integer stand at the same place. -/
theorem ofInt?_exact {value : Int} (bounded : value.natAbs ≤ Nat.pow 2 precision) :
    ∃ double, ofInt? value = some double ∧ Value.equals (.float double) (.int value) = true := by
  by_cases isZero : value = 0
  · subst isZero
    refine ⟨zero, rfl, equals_finite_int ?_⟩
    rw [Nat.zero_mul, Int.zero_mul]
    rfl
  by_cases power : value.natAbs = Nat.pow 2 precision
  · rcases Int.natAbs_eq value with same | same
    · rw [same, power]
      exact ⟨.finite false (Nat.pow 2 52) 1, by decide, by decide⟩
    · rw [same, power]
      exact ⟨.finite true (Nat.pow 2 52) 1, by decide, by decide⟩
  have positive : value.natAbs ≠ 0 := Int.natAbs_ne_zero.mpr isZero
  have small : value.natAbs < Nat.pow 2 precision := Nat.lt_of_le_of_ne bounded power
  obtain ⟨shift, bits⟩ : ∃ shift, Nat.log2 value.natAbs + shift + 1 = precision := by
    have below := (Nat.log2_lt positive).mpr small
    exact ⟨precision - 1 - Nat.log2 value.natAbs, by omega⟩
  refine ⟨.finite (value < 0) (value.natAbs * Nat.pow 2 shift) (-(shift : Int)), ?_, ?_⟩
  · simp only [ofInt?, ofRatio_one positive bits]
  · apply equals_finite_int
    have unscaled : (-(shift : Int)).toNat = 0 := by omega
    have back : (-(-(shift : Int))).toNat = shift := by omega
    have one : Nat.pow 2 0 = 1 := rfl
    rw [unscaled, back, one, Nat.mul_one, Int.natCast_mul]
    by_cases negative : value < 0
    · have magnitude : (value.natAbs : Int) = -value := by omega
      rw [if_pos (decide_eq_true negative), magnitude, Int.neg_mul, Int.neg_neg]
    · have magnitude : (value.natAbs : Int) = value := by omega
      simp [negative, magnitude]

end Double

end DiscoveryClient
