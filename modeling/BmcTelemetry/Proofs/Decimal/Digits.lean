import BmcTelemetry.Decimal.Digits

/-! Digits that are written read back, one by one and as the number that they spell. -/

namespace BmcTelemetry.Digit

/-- A digit that is written reads back. -/
@[simp] theorem ofChar?_toChar : ∀ digit : Digit, ofChar? digit.toChar = some digit := by
  -- There are ten of them.
  decide

/-- A text that does not begin with a digit. -/
def Stops (text : List Char) : Prop :=
  ∀ char ∈ text.head?, ofChar? char = none

/-- Digits at the front of a text are read up to the first character that is none. -/
theorem front_append (digits : List Digit) {rest : List Char} (stops : Stops rest) :
    front (digits.map toChar ++ rest) = (digits, rest) := by
  -- A digit in front is read and leaves the shorter text to be read.
  induction digits with
  | nil =>
    -- Nothing is read where the rest begins.
    cases rest with
    | nil => rfl
    | cons char rest =>
      have plain : ofChar? char = none := stops char rfl
      rw [List.map_nil, List.nil_append, front, plain]
  | cons digit digits ih => rw [List.map_cons, List.cons_append, front, ofChar?_toChar, ih]

/-- Every number has a digit. -/
theorem ofNat_ne_nil (number : Nat) : ofNat number ≠ [] := by
  -- The last digit is always written, with or without others in front.
  rw [ofNat]
  split <;> simp

/-- The digits of a number spell it. -/
theorem toNat_ofNat (number : Nat) : toNat (ofNat number) = number := by
  -- The last digit is the remainder by ten, and the others spell the quotient.
  induction number using ofNat.induct with
  | case1 number small =>
    -- A number below ten is its one digit.
    rw [ofNat, dif_pos small, toNat, List.foldl_cons, List.foldl_nil, Nat.zero_mul, Nat.zero_add]
  | case2 number large ih =>
    -- Reading the last digit multiplies what the others spell by ten and adds it.
    rw [ofNat, dif_neg large, toNat, List.foldl_append, ← toNat, ih]
    simp only [List.foldl_cons, List.foldl_nil]
    omega

/-- Only zero begins with a zero. -/
theorem eq_zero_of_ofNat {number : Nat} {rest : List Digit} (spelled : ofNat number = 0 :: rest) :
    number = 0 := by
  -- A number of several digits begins as its quotient by ten does, which is not zero.
  induction number using ofNat.induct generalizing rest with
  | case1 number small =>
    -- One digit is the number itself.
    rw [ofNat, dif_pos small] at spelled
    exact congrArg Fin.val (List.cons.inj spelled).1
  | case2 number large ih =>
    rw [ofNat, dif_neg large] at spelled
    cases front : ofNat (number / 10) with
    | nil => exact absurd front (ofNat_ne_nil _)
    | cons digit others =>
      -- The first digit is that of the quotient, which would be zero although the number is ten or
      -- more.
      rw [front, List.cons_append] at spelled
      rw [(List.cons.inj spelled).1] at front
      have quotient := ih front
      omega

/-- Zero is one digit. -/
theorem ofNat_zero : ofNat 0 = [0] := by
  rw [ofNat]
  rfl

end BmcTelemetry.Digit
