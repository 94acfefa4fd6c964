import BmcTelemetry.Json.Numeral
import Mathlib

/-!
Numerals are read as finite numbers: nothing that a numeral spells is infinite or no number at all.

Whether a number fits its format depends on its binary exponent alone. So a bound on the exponent
is followed through rounding, products and quotients, none of which comes near the greatest one.
-/

namespace BmcTelemetry

namespace Decimal

open Float.Model (Format UnpackedFloat)
open Float.Model.UnpackedFloat (Accuracy ExtendedMantissa Sign)

/-- A number that is zero, or whose exponent is at most the bound. -/
inductive Within (bound : Int) : UnpackedFloat → Prop
  | zero (sign : Sign) : Within bound (.zero sign)
  | finite (sign : Sign) {mantissa : Nat} {exponent : Int} (positive : 0 < mantissa)
      (low : exponent ≤ bound) : Within bound (.finite sign mantissa exponent positive)

/-- A bound may be raised. -/
theorem Within.mono {number : UnpackedFloat} {bound raised : Int} (within : Within bound number)
    (le : bound ≤ raised) : Within raised number := by
  -- Only the exponent of a number has to be compared, and zero has none.
  cases within with
  | zero sign => exact .zero sign
  | finite sign positive low => exact .finite sign positive (Int.le_trans low le)

/-- What is within a bound is finite. -/
theorem Within.isFinite {number : UnpackedFloat} {bound : Int} (within : Within bound number) :
    number.isFinite = true := by
  -- Both kinds of number that have a bound are finite by their constructor.
  cases within with
  | zero sign => rfl
  | finite sign positive low => rfl

/-- Whether a number is finite and not too small to divide by. -/
def isLarge : UnpackedFloat → Bool
  | .finite _ _ exponent _ => decide (-53 ≤ exponent)
  | .zero _ | .infinity _ | .notANumber => false

section Rounding

/-- A number below a power of two has no more binary digits than its exponent. -/
theorem log2_le {number bits : Nat} (small : number < 2 ^ bits) : number.log2 ≤ bits := by
  -- Zero has no digits at all, which the law of the logarithm leaves out.
  by_cases zero : number = 0
  · simp [zero]
  · exact Nat.le_of_lt ((Nat.log2_lt zero).mpr small)

/-- Shifting to the right divides the mantissa by a power of two. -/
theorem mantissa_shiftRight (extended : ExtendedMantissa) (count : Nat) :
    (extended >>> count).mantissa = extended.mantissa / 2 ^ count := by
  -- Shifting by several places is done one place at a time, and each one halves the mantissa.
  induction count with
  | zero => exact (Nat.div_one _).symm
  | succ count ih =>
    change (extended >>> count).mantissa / 2 = extended.mantissa / 2 ^ (count + 1)
    rw [ih, Nat.div_div_eq_div_mul, ← Nat.pow_succ]

/-- Rounding adds one unit at most. -/
theorem roundedMantissa_near (extended : ExtendedMantissa) :
    extended.mantissa ≤ extended.roundedMantissa ∧
      extended.roundedMantissa ≤ extended.mantissa + 1 := by
  -- What was cut off is told by the half and by what is below it, in four combinations.
  obtain ⟨mantissa, half, below⟩ := extended
  cases half <;> cases below <;>
    simp only [ExtendedMantissa.roundedMantissa, ExtendedMantissa.accuracy,
      Accuracy.roundToNearestEven] <;> omega

/-- How many bits of a mantissa do not fit. -/
def excess (mantissa : Nat) (exponent : Int) : Nat :=
  (Format.binary64.targetExponent (Float.Model.totalExponent mantissa exponent) - exponent).toNat

/-- Shifting to the target takes as many bits from the mantissa as it adds to the exponent. -/
theorem shiftToTargetExponent_excess (mantissa : Nat) (exponent : Int) (accuracy : Accuracy) :
    let shifted := UnpackedFloat.shiftToTargetExponent .binary64 mantissa exponent accuracy
    shifted.1.mantissa = mantissa / 2 ^ excess mantissa exponent ∧
      shifted.2 = exponent + excess mantissa exponent := by
  -- The accuracy goes into the bits beside the mantissa.
  have start : (ExtendedMantissa.ofMantissaAndAccuracy mantissa accuracy).mantissa = mantissa := by
    cases accuracy with
    | exact => rfl
    | inexact side => cases side <;> rfl
  refine ⟨?_, rfl⟩
  rw [UnpackedFloat.shiftToTargetExponent, UnpackedFloat.shiftToExponent, mantissa_shiftRight,
    start, excess]

/-- No more bits are taken than there are, unless the exponent is below the least one. -/
theorem excess_le {mantissa bits : Nat} (few : mantissa.log2 ≤ bits) (exponent : Int) :
    exponent + excess mantissa exponent ≤ max (exponent + bits) (-1074) := by
  -- The exponent is raised until 53 bits are left, or until it is the least one.
  simp only [excess, Format.targetExponent, Float.Model.totalExponent, Format.mantissaBits,
    Format.minExponent]
  omega

/-- Rounding leaves an exponent within twice the bits of the mantissa. -/
theorem within_round (sign : Sign) {mantissa bits : Nat} (small : mantissa < 2 ^ bits)
    {exponent bound : Int} (low : exponent ≤ bound) (least : 0 ≤ bound) (accuracy : Accuracy) :
    Within (bound + 2 * bits)
      (UnpackedFloat.roundWithAccuracy .binary64 sign mantissa exponent accuracy) := by
  -- The mantissa is shifted, rounded, and shifted once more if it has become a bit longer.
  obtain ⟨shifted, reached⟩ := shiftToTargetExponent_excess mantissa exponent accuracy
  simp only [UnpackedFloat.roundWithAccuracy]
  generalize UnpackedFloat.shiftToTargetExponent .binary64 mantissa exponent accuracy = first
    at shifted reached ⊢
  -- Rounding up may add one to the mantissa, and so a bit to its length.
  obtain ⟨_, rounded⟩ := roundedMantissa_near first.1
  have few : first.1.roundedMantissa.log2 ≤ bits := by
    have shorter : mantissa / 2 ^ excess mantissa exponent ≤ mantissa := Nat.div_le_self _ _
    have longer : first.1.roundedMantissa < 2 ^ (bits + 1) := by
      rw [Nat.pow_succ]
      omega
    by_cases zero : first.1.roundedMantissa = 0
    · simp [zero]
    · exact Nat.le_of_lt_succ ((Nat.log2_lt zero).mpr longer)
  -- Both shifts raise the exponent by no more than the bits that there are.
  have once := excess_le (log2_le small) exponent
  have twice := excess_le few first.2
  obtain ⟨_, final⟩ := shiftToTargetExponent_excess first.1.roundedMantissa first.2 .exact
  -- A mantissa that is rounded to nothing is zero, and any other keeps its last exponent.
  split
  · exact .zero sign
  · exact .finite sign _ (by omega)

/-- Rounding leaves a number finite; only packing may find its exponent too great. -/
theorem isFinite_round (sign : Sign) (mantissa : Nat) (exponent : Int) (accuracy : Accuracy) :
    (UnpackedFloat.roundWithAccuracy .binary64 sign mantissa exponent accuracy).isFinite
      = true := by
  -- Whatever the mantissa becomes, the result is zero or a finite number.
  simp only [UnpackedFloat.roundWithAccuracy]
  split <;> rfl

/-- A mantissa of at least 53 bits is cut to 53. -/
theorem excess_long {mantissa : Nat} (long : 2 ^ 52 ≤ mantissa) {exponent : Int}
    (least : -1074 ≤ exponent) :
    (excess mantissa exponent : Int) = mantissa.log2 - 52 ∧
      2 ^ 52 ≤ mantissa / 2 ^ excess mantissa exponent ∧
      mantissa / 2 ^ excess mantissa exponent < 2 ^ 53 := by
  have nonzero : mantissa ≠ 0 := by omega
  have bits : 52 ≤ mantissa.log2 := (Nat.le_log2 nonzero).mpr long
  -- The least exponent does not matter, since the exponent only grows from one above it.
  have count : mantissa.log2 = 52 + excess mantissa exponent := by
    simp only [excess, Format.targetExponent, Float.Model.totalExponent, Format.mantissaBits,
      Format.minExponent]
    omega
  refine ⟨by omega, ?_, ?_⟩
  -- Cutting leaves the leading bit, so that the mantissa does not fall below 53 bits.
  · rw [Nat.le_div_iff_mul_le (Nat.two_pow_pos _), ← Nat.pow_add, ← count]
    exact Nat.log2_self_le nonzero
  -- Cutting takes all the bits above 53, so that the mantissa does not exceed them.
  · rw [Nat.div_lt_iff_lt_mul (Nat.two_pow_pos _), ← Nat.pow_add]
    have more : mantissa < 2 ^ (mantissa.log2 + 1) := Nat.lt_log2_self
    rwa [count, Nat.add_right_comm] at more

/-- Rounding leaves 53 bits of a mantissa that has as many. -/
theorem round_long (sign : Sign) {mantissa : Nat} (long : 2 ^ 52 ≤ mantissa) {exponent : Int}
    (least : -1074 ≤ exponent) (accuracy : Accuracy) :
    ∃ rounded reached positive,
      UnpackedFloat.roundWithAccuracy .binary64 sign mantissa exponent accuracy
        = .finite sign rounded reached positive ∧
      2 ^ 52 ≤ rounded ∧ rounded < 2 ^ 53 ∧ exponent ≤ reached ∧
      reached ≤ exponent + mantissa.log2 - 51 := by
  -- A mantissa of 53 bits or more is cut to 53, which is where the first shift leaves it.
  obtain ⟨shifted, reached⟩ := shiftToTargetExponent_excess mantissa exponent accuracy
  obtain ⟨cut, atLeast, below⟩ := excess_long long least
  rw [UnpackedFloat.roundWithAccuracy]
  generalize UnpackedFloat.shiftToTargetExponent .binary64 mantissa exponent accuracy = first
    at shifted reached ⊢
  obtain ⟨down, up⟩ := roundedMantissa_near first.1
  -- Rounding up may add a bit, which is cut off again.
  have still : 2 ^ 52 ≤ first.1.roundedMantissa := by omega
  have bits : first.1.roundedMantissa.log2 ≤ 53 :=
    Nat.le_of_lt_succ ((Nat.log2_lt (by omega)).mpr (by omega))
  obtain ⟨cutAgain, enough, short⟩ := excess_long still (show -1074 ≤ first.2 by omega)
  obtain ⟨last, final⟩ := shiftToTargetExponent_excess first.1.roundedMantissa first.2 .exact
  rw [← last] at enough short
  simp only
  generalize UnpackedFloat.shiftToTargetExponent .binary64 first.1.roundedMantissa first.2 .exact
    = second at enough short final ⊢
  -- A mantissa with its leading bit is not zero, so that rounding does not end with zero.
  have positive : 0 < second.1.mantissa := by omega
  rw [dif_neg (Nat.ne_of_gt positive)]
  exact ⟨_, _, positive, rfl, enough, short, by omega, by omega⟩

end Rounding

section Packing

/-- The exponent that is stored for a number. -/
theorem stored_exponent (exponent : Int) :
    exponent + (Format.binary64.exponentBias : Int) + (52 : Nat) = exponent + 1075 := by
  have bias : (Format.binary64.exponentBias : Int) = 1023 := by decide
  omega

/-- What marks an infinite number is unpacked as one. -/
theorem isInf_packedInfinity (sign : Sign) :
    (UnpackedFloat.unpack .binary64 (UnpackedFloat.packedInfinity .binary64 sign)).isInf
      = true := by
  cases sign <;> decide

/-- A packed exponent bounds the unpacked one, unless it marks what is not finite. -/
theorem within_unpack {packed : BitVec (Format.numBits .binary64)} {bound : Int}
    (low : ((UnpackedFloat.unpackExponent packed).toNat : Int) ≤ bound + 1075)
    (least : 0 ≤ bound) (most : bound ≤ 971) :
    Within bound (UnpackedFloat.unpack .binary64 packed) := by
  -- What is unpacked depends on the stored exponent, which marks three kinds of number.
  simp only [UnpackedFloat.unpack]
  generalize UnpackedFloat.unpackExponent packed = stored at low ⊢
  split
  · next marked =>
    -- All bits set mark what is not finite.
    rw [marked] at low
    change (2047 : Int) ≤ _ at low
    omega
  · split
    -- A stored zero stands for zero or for a number below the normal range, at the least exponent.
    · next zero =>
      split
      · exact .zero _
      · rw [zero]
        refine .finite _ _ ?_
        change (0 : Int) - 1075 + 1 ≤ bound
        omega
    -- In the normal range, the stored exponent is shifted by its bias and the bits of the mantissa.
    · refine .finite _ _ ?_
      change (stored.toNat : Int) - 1075 ≤ bound
      omega

/-- A number whose exponent fits its format is packed within the same bound. -/
theorem within_pack {number : UnpackedFloat} {bound : Int} (within : Within bound number)
    (least : 0 ≤ bound) (most : bound ≤ 971) :
    Within bound (Float.Model.pack number).unpack := by
  change Within bound (UnpackedFloat.unpack .binary64 (UnpackedFloat.pack .binary64 number))
  refine within_unpack ?_ least most
  cases within with
  -- Zero is stored with no exponent.
  | zero sign =>
    rw [UnpackedFloat.pack, UnpackedFloat.packedZero, UnpackedFloat.unpackExponent_packComponents]
    change (0 : Int) ≤ _
    omega
  | @finite sign mantissa exponent positive low =>
    simp only [UnpackedFloat.pack, stored_exponent]
    -- The exponent fits, so the number is packed with it, or with none if its mantissa is short.
    rw [if_neg (by omega)]
    split
    -- The stored exponent has eleven bits, which it does not exceed.
    · rw [UnpackedFloat.unpackExponent_packComponents, BitVec.toNat_ofNat]
      have small := Nat.mod_le (exponent + 1075).toNat (2 ^ 11)
      omega
    · rw [UnpackedFloat.unpackExponent_packComponents]
      change (0 : Int) ≤ _
      omega

/-- A number of 53 bits is packed as it is, when its exponent fits its format. -/
theorem large_pack {sign : Sign} {mantissa : Nat} {exponent : Int} {positive : 0 < mantissa}
    (long : 2 ^ 52 ≤ mantissa) (short : mantissa < 2 ^ 53) (least : -53 ≤ exponent)
    (most : exponent ≤ 971) :
    isLarge (Float.Model.pack (.finite sign mantissa exponent positive)).unpack = true := by
  -- The leading bit is where the format expects it, so that the number is in the normal range.
  have bits : mantissa.log2 + 1 = Format.binary64.mantissaBits := by
    have enough : 52 ≤ mantissa.log2 := (Nat.le_log2 (by omega)).mpr long
    have few : mantissa.log2 < 53 := (Nat.log2_lt (by omega)).mpr short
    change mantissa.log2 + 1 = 53
    omega
  have packed : UnpackedFloat.pack .binary64 (.finite sign mantissa exponent positive)
      = UnpackedFloat.packComponents .binary64 sign (BitVec.ofNat 11 (exponent + 1075).toNat)
        (BitVec.ofNat 52 mantissa) := by
    simp only [UnpackedFloat.pack, stored_exponent]
    rw [if_neg (by omega), if_pos bits]
  -- Eleven bits hold the exponent with its bias.
  have stored : (BitVec.ofNat 11 (exponent + 1075).toNat).toNat = (exponent + 1075).toNat := by
    rw [BitVec.toNat_ofNat]
    exact Nat.mod_eq_of_lt (by omega)
  -- The exponent is neither that of zero nor the one that marks what is not finite.
  have nonzero : BitVec.ofNat 11 (exponent + 1075).toNat ≠ 0#11 := by
    intro same
    rw [same] at stored
    change 0 = _ at stored
    omega
  have unmarked : BitVec.ofNat 11 (exponent + 1075).toNat ≠ -1#11 := by
    intro same
    rw [same] at stored
    change 2047 = _ at stored
    omega
  -- Unpacked from the normal range, the number has the exponent that it was packed with.
  change isLarge (UnpackedFloat.unpack .binary64 (UnpackedFloat.pack .binary64 _)) = true
  rw [packed]
  simp only [UnpackedFloat.unpack, UnpackedFloat.unpackExponent_packComponents,
    if_neg unmarked, if_neg nonzero, stored]
  refine decide_eq_true ?_
  change -53 ≤ ((exponent + 1075).toNat : Int) - 1075
  omega

/-- A finite number that is not packed as an infinite one fits its format. -/
theorem within_of_not_isInf {number : UnpackedFloat} (finite : number.isFinite = true)
    (fits : (Float.Model.pack number).unpack.isInf = false) :
    Within 971 (Float.Model.pack number).unpack := by
  -- A number that is not finite is not given, and zero always fits.
  cases number with
  | infinity sign => cases finite
  | notANumber => cases finite
  | zero sign => exact within_pack (.zero sign) (by decide) (by decide)
  | finite sign mantissa exponent positive =>
    by_cases most : exponent ≤ 971
    · exact within_pack (.finite sign positive most) (by decide) (by decide)
    · -- It is packed with the mark of what is not finite.
      have packed : UnpackedFloat.pack .binary64 (.finite sign mantissa exponent positive)
          = UnpackedFloat.packedInfinity .binary64 sign := by
        simp only [UnpackedFloat.pack, stored_exponent]
        rw [if_pos (by omega)]
      change (UnpackedFloat.unpack .binary64 (UnpackedFloat.pack .binary64 _)).isInf = false
        at fits
      rw [packed, isInf_packedInfinity] at fits
      cases fits

/-- A mantissa that is unpacked has 53 bits at most. -/
theorem mantissa_unpack_lt {packed : BitVec (Format.numBits .binary64)} {sign : Sign}
    {mantissa : Nat} {exponent : Int} {positive : 0 < mantissa}
    (unpacked : UnpackedFloat.unpack .binary64 packed = .finite sign mantissa exponent positive) :
    mantissa < 2 ^ 53 := by
  -- There are 52 bits in store, and in front of them a bit that is left out of store.
  simp only [UnpackedFloat.unpack] at unpacked
  -- What is marked as not finite has no mantissa, and neither has zero.
  split at unpacked
  · split at unpacked <;> cases unpacked
  · split at unpacked
    · split at unpacked
      · cases unpacked
      · cases unpacked
        exact Nat.lt_trans (UnpackedFloat.unpackMantissa packed).isLt (by decide)
    · cases unpacked
      exact (1#1 ++ UnpackedFloat.unpackMantissa packed).isLt

end Packing

section Operations

/-- A number that is finite, with a bound on its exponent. -/
def Bounded (bound : Int) (number : Float) : Prop :=
  Within bound number.toModel.unpack

variable {left right : Float} {bound : Int}

/-- A number that has a bound is zero, or has an exponent below the bound and a short mantissa. -/
theorem Bounded.cases {number : Float} (bounded : Bounded bound number) :
    (∃ sign, number.toModel.unpack = .zero sign) ∨
      ∃ sign mantissa exponent positive,
        number.toModel.unpack = .finite sign mantissa exponent positive ∧
          mantissa < 2 ^ 53 ∧ exponent ≤ bound := by
  rw [Bounded] at bounded
  -- The number is split without losing that it comes out of 64 bits.
  generalize unpacked : number.toModel.unpack = found at bounded
  cases bounded with
  | zero sign => exact .inl ⟨sign, rfl⟩
  | @finite sign mantissa exponent positive low =>
    exact .inr ⟨sign, mantissa, exponent, positive, rfl, mantissa_unpack_lt unpacked, low⟩

/-- The exponents of a product add up, but for the bits of the mantissas. -/
theorem bounded_mul {other : Int} (first : Bounded bound left) (second : Bounded other right)
    (least : 0 ≤ bound + other) (most : bound + other + 212 ≤ 971) :
    Bounded (bound + other + 212) (left * right) := by
  -- The product is packed once it is rounded, so its exponent is followed through both.
  refine within_pack ?_ (by omega) most
  -- A product with zero is zero, whichever factor it is.
  obtain ⟨sign, zero⟩ | ⟨sign, mantissa, exponent, _, unpacked, small, low⟩ := first.cases
  · rw [zero]
    obtain ⟨_, zero⟩ | ⟨_, _, _, _, finite, _⟩ := second.cases
    · rw [zero]
      exact .zero _
    · rw [finite]
      exact .zero _
  · rw [unpacked]
    obtain ⟨_, zero⟩ | ⟨_, factor, shift, _, finite, short, few⟩ := second.cases
    · rw [zero]
      exact .zero _
    · rw [finite]
      -- Two mantissas of 53 bits make up one of 106.
      have product : mantissa * factor < 2 ^ 106 :=
        calc mantissa * factor < 2 ^ 53 * 2 ^ 53 := Nat.mul_lt_mul'' small short
          _ = 2 ^ 106 := (Nat.pow_add 2 53 53).symm
      exact within_round _ product (by omega) least .exact

/-- A product of finite numbers fits its format when it is not infinite. -/
theorem bounded_mul_of_not_isInf (first : Bounded bound left)
    (second : isLarge right.toModel.unpack = true) (fits : (left * right).isInf = false) :
    Bounded 971 (left * right) := by
  refine within_of_not_isInf ?_ fits
  -- Neither factor is infinite, so the product is zero or is rounded.
  generalize right.toModel.unpack = factor at second ⊢
  cases factor with
  | infinity sign => cases second
  | notANumber => cases second
  | zero sign => cases second
  | finite sign factor shift positive =>
    obtain ⟨_, zero⟩ | ⟨_, _, _, _, unpacked, _⟩ := first.cases
    · rw [zero]
      rfl
    · rw [unpacked]
      exact isFinite_round _ _ _ _

/-- Before it is rounded, a quotient has no more than 106 bits, and the difference of exponents. -/
theorem divCore_lt {mantissa divisor : Nat} (small : mantissa < 2 ^ 53) (positive : 0 < divisor)
    (exponent shift : Int) :
    let quotient := UnpackedFloat.divCore .binary64 mantissa exponent divisor shift
    quotient.1 < 2 ^ 106 ∧ quotient.2.1 ≤ exponent - shift := by
  simp only [UnpackedFloat.divCore, Format.targetExponent, Float.Model.totalExponent,
    Format.mantissaBits, Format.minExponent]
  -- Raising the mantissa lowers the exponent, so that only the bits of the quotient are left to
  -- bound.
  refine ⟨?_, by omega⟩
  generalize raised : (exponent - shift - min _ _).toNat = count
  -- The mantissa is made longer than the divisor by 53 bits, and no more.
  have few : count ≤ divisor.log2 + 53 := by omega
  have least : 2 ^ divisor.log2 ≤ divisor := Nat.log2_self_le (Nat.ne_of_gt positive)
  rw [Nat.shiftLeft_eq]
  refine Nat.div_lt_of_lt_mul ?_
  calc mantissa * 2 ^ count
      < 2 ^ 53 * 2 ^ count := Nat.mul_lt_mul_of_pos_right small (Nat.two_pow_pos count)
    _ ≤ 2 ^ 53 * 2 ^ (divisor.log2 + 53) :=
      Nat.mul_le_mul_left _ (Nat.pow_le_pow_right (by decide) few)
    _ = 2 ^ divisor.log2 * 2 ^ 106 := by
      rw [← Nat.pow_add, ← Nat.pow_add]
      congr 1
      omega
    _ ≤ divisor * 2 ^ 106 := Nat.mul_le_mul_right _ least

/-- Dividing by what is not too small raises the exponent by a bound. -/
theorem bounded_div (first : Bounded bound left) (second : isLarge right.toModel.unpack = true)
    (least : 0 ≤ bound) (most : bound + 265 ≤ 971) : Bounded (bound + 265) (left / right) := by
  refine within_pack ?_ (by omega) most
  -- The divisor is not zero, and its exponent takes no more than 53 away from the bound.
  generalize right.toModel.unpack = divisor at second ⊢
  cases divisor with
  | infinity sign => cases second
  | notANumber => cases second
  | zero sign => cases second
  | finite sign divisor shift positive =>
    have large : -53 ≤ shift := of_decide_eq_true second
    -- Zero divided by anything but zero is zero.
    obtain ⟨_, zero⟩ | ⟨_, mantissa, exponent, _, unpacked, small, low⟩ := first.cases
    · rw [zero]
      exact .zero _
    · rw [unpacked]
      -- Both numbers are finite, so that the quotient is computed, rounded and packed.
      obtain ⟨short, few⟩ := divCore_lt small positive exponent shift
      have reached : (UnpackedFloat.divCore .binary64 mantissa exponent divisor shift).2.1
          ≤ bound + 53 := by omega
      exact (within_round _ short reached (by omega) _).mono (by omega)

/-- The other sign does not change the exponent. -/
theorem bounded_neg {number : Float} (bounded : Bounded bound number) (least : 0 ≤ bound)
    (most : bound ≤ 971) : Bounded bound (-number) := by
  -- The sign is packed beside the exponent, which stays.
  refine within_pack ?_ least most
  obtain ⟨sign, zero⟩ | ⟨_, mantissa, exponent, _, unpacked, small, low⟩ := bounded.cases
  · rw [zero]
    exact .zero _
  · rw [unpacked]
    exact .finite _ _ low

end Operations

section Numbers

/-- A power of ten that is not computed exactly has a mantissa of 53 bits all the same. -/
theorem large_ofScientific {exponent : Nat} (most : exponent ≤ 307) :
    isLarge (Float.Model.ofScientific 1 exponent).unpack = true := by
  -- Three hundred powers of ten take about a thousand bits, far from the greatest exponent.
  have bits : 10 ^ exponent < 2 ^ 1020 :=
    calc 10 ^ exponent ≤ 10 ^ 307 := Nat.pow_le_pow_right (by decide) most
      _ < 2 ^ 1020 := by decide +kernel
  have positive : 0 < 10 ^ exponent := Nat.pow_pos (by decide)
  have long : 2 ^ 52 ≤ (1 <<< 53) * 10 ^ exponent := by
    rw [Nat.one_shiftLeft]
    omega
  have nonzero : (1 <<< 53) * 10 ^ exponent ≠ 0 := by omega
  -- Multiplied by a power of two, the power of ten has as many more bits.
  have longer : ∀ bits, 10 ^ exponent < 2 ^ bits →
      ((1 <<< 53) * 10 ^ exponent).log2 < 53 + bits := by
    intro bits small
    rw [Nat.log2_lt nonzero, Nat.one_shiftLeft, Nat.pow_add]
    exact Nat.mul_lt_mul_of_pos_left small (Nat.two_pow_pos 53)
  have few := longer 1020 bits
  -- The power is multiplied by one, which is 53 bits long already.
  obtain ⟨rounded, reached, _, product, atLeast, below, low, high⟩ :=
    round_long .positive long (show -1074 ≤ (-53 : Int) + 0 by decide) .exact
  have multiplied : UnpackedFloat.ofScientific .binary64 1 exponent
      = UnpackedFloat.roundWithAccuracy .binary64 .positive ((1 <<< 53) * 10 ^ exponent) (-53 + 0)
        .exact := by
    -- The exponent is in the range that is computed instead of being cut short.
    have inside : ¬ (exponent : Int) > 2 ^ 11 := by omega
    have enough : ¬ (exponent : Int) < -((2 ^ 11 : Int) + Nat.log2 1) := by omega
    rw [UnpackedFloat.ofScientific, dif_neg (by decide), if_neg inside, if_neg enough,
      if_pos (Int.natCast_nonneg exponent), UnpackedFloat.mul]
    rfl
  rw [Float.Model.ofScientific, multiplied, product]
  exact large_pack atLeast below (by omega) (by omega)

/-- Every power of ten that numerals use is finite and not too small to divide by. -/
theorem large_powerOfTen {exponent : Nat} (most : exponent ≤ greatestPower) :
    isLarge (powerOfTen exponent).toModel.unpack = true := by
  -- The least powers are from a table, and the greatest one is close to the greatest number.
  have least : ∀ exponent : Fin 23, isLarge (powerOfTen exponent).toModel.unpack = true := by
    decide +kernel
  have greatest : isLarge (powerOfTen 308).toModel.unpack = true := by
    decide +kernel
  change exponent ≤ 308 at most
  -- The table reaches up to ten to the 22, and what is above it is computed.
  by_cases exact : exponent ≤ 22
  · exact least ⟨exponent, Nat.lt_succ_of_le exact⟩
  · obtain rfl | lower : exponent = 308 ∨ exponent ≤ 307 := by omega
    · exact greatest
    · rw [powerOfTen, Float.ofScientific, dif_neg (fun both => exact both.2)]
      exact large_ofScientific lower

/-- A natural number of few bits is made longer by 52 bits at most before it is rounded. -/
theorem within_ofNat {number : Nat} (small : number < 2 ^ 53) :
    Within 210 (UnpackedFloat.ofNat .binary64 number) := by
  rw [UnpackedFloat.ofNat, UnpackedFloat.ofInt, UnpackedFloat.normalize]
  -- The number is told apart by its sign before it is normalized.
  split
  · next negative =>
    -- No natural number is negative.
    have below : (number : Int) < 0 := Int.compare_eq_lt.mp negative
    omega
  · exact .zero _
  · simp only [UnpackedFloat.round, UnpackedFloat.decreaseExponent, Format.targetExponent,
      Float.Model.totalExponent, Format.mantissaBits, Format.minExponent, Int.toNat_natCast]
    -- Normalizing raises the number until it has 53 bits, which adds 52 at most.
    generalize raised : (0 - max _ _ : Int).toNat = count
    have few : count ≤ 52 := by omega
    have longer : number <<< count < 2 ^ 105 := by
      rw [Nat.shiftLeft_eq]
      calc number * 2 ^ count
          < 2 ^ 53 * 2 ^ count := Nat.mul_lt_mul_of_pos_right small (Nat.two_pow_pos count)
        _ ≤ 2 ^ 53 * 2 ^ 52 := Nat.mul_le_mul_left _ (Nat.pow_le_pow_right (by decide) few)
        _ = 2 ^ 105 := (Nat.pow_add 2 53 52).symm
    exact within_round .positive longer (show _ ≤ 0 by omega) (Int.le_refl 0) .exact

/-- A longer natural number is made longer by 53 bits before it is rounded. -/
theorem within_ofScientific {number : Nat} (small : number < 2 ^ 64) :
    Within 422 (UnpackedFloat.ofScientific .binary64 number 0) := by
  rw [UnpackedFloat.ofScientific]
  split
  · exact .zero _
  · -- It is multiplied by the power of ten to zero, which is one.
    have enough : ¬ (0 : Int) < -((2 ^ 11 : Int) + number.log2) := by omega
    rw [if_neg (by decide), if_neg enough, if_pos (by decide), UnpackedFloat.mul]
    -- Fifty-three bits are added to sixty-four.
    have longer : (number <<< 53) * 10 ^ 0 < 2 ^ 117 := by
      rw [Nat.shiftLeft_eq]
      omega
    have reached : (-53 : Int) + 0 ≤ 0 := by decide
    exact (within_round .positive longer reached (Int.le_refl 0) .exact).mono (by decide)

/-- A significand of 64 bits is far from the greatest exponent. -/
theorem bounded_ofSignificand {significand : Nat} (small : significand < 2 ^ 64) :
    Bounded 422 (ofSignificand significand) := by
  rw [ofSignificand, Float.ofScientific]
  -- A significand of 53 bits is converted without loss, and a longer one is rounded.
  split
  · next few =>
    -- It is taken as it is, and multiplied by one.
    have converted : significand.toUInt64.toNat = significand :=
      Nat.mod_eq_of_lt small
    have own : Bounded 210 significand.toUInt64.toFloat := by
      refine within_pack ?_ (by decide) (by decide)
      rw [UnpackedFloat.ofUInt64, converted]
      exact within_ofNat few.1
    have one : Bounded 0 Float.exactlyRepresentablePowersOfTen[0] :=
      .finite .positive _ (show (-52 : Int) ≤ 0 by decide)
    exact bounded_mul own one (by decide) (by decide)
  · exact within_pack (within_ofScientific small) (by decide) (by decide)

/-- What a decimal is read as fits its format. -/
theorem bounded_magnitude {significand : Nat} (small : significand < 2 ^ 64) {exponent : Int}
    {number : Float} (found : magnitude? significand exponent = some number) :
    Bounded 971 number := by
  -- Quotients cannot be too great, and products that are too great are not given out.
  have start := bounded_ofSignificand small
  simp only [magnitude?] at found
  -- The cases are those of the reader: no exponent, one above zero, and one or two divisions below.
  split at found
  · cases found
    exact start.mono (by decide)
  split at found
  -- Above zero, an exponent past the powers is refused, and so is a product that is infinite.
  · split at found
    · cases found
    · split at found
      · cases found
      · next within infinite =>
        cases found
        exact bounded_mul_of_not_isInf start (large_powerOfTen (Nat.le_of_not_lt within))
          (Bool.eq_false_iff.mpr infinite)
  -- Below zero, one division is enough for an exponent within the powers.
  split at found
  · next within =>
    cases found
    have divided := bounded_div start (large_powerOfTen within) (by decide) (by decide)
    exact divided.mono (by decide)
  split at found
  -- Otherwise the greatest power is divided out first, and what is left of the exponent afterwards.
  · next within =>
    cases found
    have once := bounded_div start (large_powerOfTen (Nat.le_refl _)) (by decide) (by decide)
    have rest : exponent.natAbs - greatestPower ≤ greatestPower := by omega
    have divided := bounded_div once (large_powerOfTen rest) (by decide) (by decide)
    exact divided.mono (by decide)
  -- Exponents below both divisions leave zero.
  · rw [← Option.some.inj found]
    exact (bounded_ofSignificand (show 0 < 2 ^ 64 by decide)).mono (by decide)

end Numbers

end Decimal

namespace Numeral

/-- Digits are only absorbed while the significand stays below 2^64. -/
theorem absorb_lt {significand : Nat} (small : significand < UInt64.size) (digits : List Digit) :
    (absorb significand digits).1 < UInt64.size := by
  -- Digits are taken from the left, each only if the significand still fits with it.
  induction digits generalizing significand with
  | nil => exact small
  | cons digit digits ih =>
    simp only [absorb]
    split
    · next grown => exact ih grown
    · exact small

/-- The significand of a numeral is below 2^64. -/
theorem scaled_lt (numeral : Numeral) : numeral.scaled.1 < UInt64.size := by
  -- The digits before the point are absorbed first, and those behind it go on from there.
  have whole := absorb_lt (show 0 < UInt64.size by decide) numeral.whole
  exact absorb_lt whole numeral.fraction

/-- Every number that is read is finite. -/
theorem isFinite_of_toFloat? {numeral : Numeral} {number : Float}
    (read : numeral.toFloat? = some number) : number.isFinite = true := by
  have small := numeral.scaled_lt
  -- The sign is put in front of the magnitude, which has a bound.
  rw [toFloat?] at read
  obtain ⟨magnitude, found, signed⟩ := Option.map_eq_some_iff.mp read
  have bounded := Decimal.bounded_magnitude small found
  -- A sign in front does not make a number infinite.
  split at signed
  · rw [← signed]
    exact (Decimal.bounded_neg bounded (by decide) (by decide)).isFinite
  · rw [← signed]
    exact bounded.isFinite

end Numeral

end BmcTelemetry
