import BmcTelemetry.Decimal.Layout
import BmcTelemetry.Proofs.Decimal.Digits

/-! Shortest decimals: whatever is not zero is not written as zero, so no zero stands in front. -/

namespace BmcTelemetry.Decimal

/-- A power of two is not zero. -/
theorem twoTo_pos (exponent : Nat) : 0 < twoTo exponent :=
  Nat.pow_pos (by decide)

/-- A power of ten is not zero. -/
theorem tenTo_pos (exponent : Nat) : 0 < tenTo exponent :=
  Nat.pow_pos (by decide)

/-- A power of ten is at least the same power of two. -/
theorem twoTo_le_tenTo (exponent : Nat) : twoTo exponent ≤ tenTo exponent :=
  Nat.pow_le_pow_left (by decide) exponent

/-- Leaving out zeros at the end does not make a decimal zero. -/
theorem Scaled.stripped_pos {decimal : Scaled} (positive : 0 < decimal.factor) :
    0 < decimal.stripped.factor := by
  -- A zero is taken off the end as long as there is one and the number is not zero itself.
  induction decimal using Scaled.stripped.induct with
  | case1 decimal more ih =>
    rw [Scaled.stripped, dif_pos more]
    -- A multiple of ten that is not zero is at least ten.
    have shorter : 0 < decimal.factor / 10 := by omega
    exact ih shorter
  | case2 decimal last =>
    rw [Scaled.stripped, dif_neg last]
    exact positive

namespace Binary

variable {number : Binary}

/-- Zero lies below all the numbers that round to one that is not zero. -/
theorem not_readsBack_zero (positive : 0 < number.factor) (unit : Int) :
    number.readsBack ⟨0, unit⟩ = false := by
  -- Compared with a bound that is not zero, the decimal zero comes out below it.
  have below (low : Nat) (least : 0 < low) :
      compareScaled ⟨0, unit⟩ low (number.exponent - 2) = .lt := by
    rw [compareScaled, Nat.zero_mul, Nat.zero_mul, Nat.compare_eq_lt]
    exact Nat.mul_pos (Nat.mul_pos least (twoTo_pos _)) (tenTo_pos _)
  -- The bound is half a unit of the lowest bit below the number at most, which is one unit or
  -- more.
  have low : 0 < (if number.narrowBelow then 4 * number.factor - 1 else 4 * number.factor - 2) := by
    split <;> omega
  simp [readsBack, below _ low]

/-- A decimal that is found on a grid for a number that is not zero is not zero either. -/
theorem onGrid_pos (positive : 0 < number.factor) {tie : Tie} {unit : Int} {decimal : Scaled}
    (found : number.onGrid tie unit = some decimal) : 0 < decimal.factor := by
  -- The lower of the two decimals may be zero, but then it does not read back.
  have lower : ∀ factor, number.readsBack ⟨factor, unit⟩ = true → 0 < factor := by
    intro factor reads
    rcases Nat.eq_zero_or_pos factor with rfl | least
    · rw [not_readsBack_zero positive] at reads
      cases reads
    · exact least
  -- The upper decimal is never zero, so that only the lower one has to be asked whether it reads
  -- back.
  simp only [onGrid] at found
  split at found
  · next reads _ =>
    cases found
    exact lower _ reads
  · cases found
    exact Nat.succ_pos _
  · cases found
  · next reads _ =>
    split at found
    · cases found
      exact lower _ reads
    · cases found
      exact Nat.succ_pos _
    · split at found
      · cases found
        exact lower _ reads
      · cases found
        exact Nat.succ_pos _

/-- The shortest decimal of a number that is not zero is not zero. -/
theorem shortest_pos (positive : 0 < number.factor) (tie : Tie) :
    0 < (number.shortest tie).factor := by
  rw [shortest]
  -- The shortest decimal comes from one of the grids, if any of them has one.
  cases found : number.grids.findSome? (number.onGrid tie) with
  | some decimal =>
    obtain ⟨unit, _, onGrid⟩ := List.exists_of_findSome?_eq_some found
    exact onGrid_pos positive onGrid
  | none =>
    -- The exact value takes the place of a decimal that was not found.
    exact Nat.mul_pos (Nat.mul_pos positive (twoTo_pos _))
      (Nat.div_pos (twoTo_le_tenTo _) (twoTo_pos _))

end Binary

namespace Laid

/-- Digits that have no zero in front, but for zero itself. -/
structure Sound (laid : Laid) : Prop where
  /-- There are digits. -/
  nonempty : laid.digits ≠ []
  /-- A zero in front is the only digit, and is the number zero. -/
  leads : ∀ rest, laid.digits = 0 :: rest → rest = [] ∧ laid.exponent = 0

/-- Every floating-point number is laid out without a zero in front. -/
theorem sound_ofFloat (tie : Tie) (number : Float) : (ofFloat tie number).Sound := by
  rw [ofFloat]
  split
  · -- Zero has a layout of its own.
    refine ⟨by simp, fun rest same => ?_⟩
    simp at same
    exact ⟨same, rfl⟩
  · next nonzero =>
    have positive := Scaled.stripped_pos
      (Binary.shortest_pos (Nat.pos_of_ne_zero nonzero) tie)
    refine ⟨Digit.ofNat_ne_nil _, fun rest same => ?_⟩
    exact absurd (Digit.eq_zero_of_ofNat same) (Nat.pos_iff_ne_zero.mp positive)

/-- The digits before the point are there, and a zero in front of them stands alone. -/
theorem Sound.aroundPoint {laid : Laid} (sound : laid.Sound) :
    laid.aroundPoint.1 ≠ [] ∧ ∀ rest, laid.aroundPoint.1 = 0 :: rest → rest = [] := by
  -- There is a first digit, and each of the three layouts begins with it or with a zero of its own.
  obtain ⟨digit, digits, spelled⟩ := List.exists_cons_of_ne_nil sound.nonempty
  rw [Laid.aroundPoint]
  split
  · refine ⟨by simp [spelled], fun rest same => ?_⟩
    -- Zeros are only added to a number that does not begin with one.
    rw [spelled, List.cons_append] at same
    obtain ⟨rfl, tail⟩ := List.cons.inj same
    obtain ⟨rfl, none⟩ := sound.leads digits spelled
    rw [← tail, none]
    rfl
  · split
    · next reached =>
      -- At least one digit stands before the point, which is the first digit.
      obtain ⟨count, positive⟩ : ∃ count, (laid.leading + 1).toNat = count + 1 :=
        ⟨laid.leading.toNat, by omega⟩
      simp only [spelled, positive, List.take_succ_cons]
      refine ⟨List.cons_ne_nil _ _, fun rest same => ?_⟩
      obtain ⟨rfl, tail⟩ := List.cons.inj same
      obtain ⟨rfl, _⟩ := sound.leads digits spelled
      rw [← tail, List.take_nil]
    -- All digits stand behind the point, so that the zero in front of it is the only one.
    · refine ⟨List.cons_ne_nil _ _, fun rest same => ?_⟩
      exact (List.cons.inj same).2.symm

end Laid

end BmcTelemetry.Decimal
