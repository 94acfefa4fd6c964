import BmcTelemetry.Json.Numeral
import BmcTelemetry.Proofs.Decimal.Shortest

/-! Numerals that are written read back, digit for digit, whatever follows them. -/

namespace BmcTelemetry.Numeral

/-- A numeral that follows the grammar: there are digits where there have to be. -/
structure Sound (numeral : Numeral) : Prop where
  /-- There are digits before the point. -/
  whole : numeral.whole ≠ []
  /-- Before the point, a zero in front stands alone. -/
  leads : ∀ rest, numeral.whole = 0 :: rest → rest = []
  /-- An exponent has digits. -/
  exponent : ∀ sign digits, numeral.exponent = some (sign, digits) → digits ≠ []

/-- A text whose first character is not part of a numeral in front of it. -/
def Ends (text : List Char) : Prop :=
  ∀ char ∈ text.head?, Digit.ofChar? char = none ∧ char ≠ '.' ∧ char ≠ 'e' ∧ char ≠ 'E'

/-- No character is the end of a numeral. -/
theorem ends_nil : Ends [] := by
  -- There is no first character that could go on with the numeral.
  intro char first
  cases first

/-- A character that is not part of a numeral ends it. -/
theorem ends_cons {char : Char}
    (plain : Digit.ofChar? char = none ∧ char ≠ '.' ∧ char ≠ 'e' ∧ char ≠ 'E') (rest : List Char) :
    Ends (char :: rest) := by
  -- The first character is the one that is known not to belong to the numeral.
  intro other first
  cases first
  exact plain

/-- No digit follows where a numeral ends. -/
theorem Ends.stops {text : List Char} (ends : Ends text) : Digit.Stops text :=
  fun char first => (ends char first).1

/-- A digit is neither a sign nor a point, nor does it begin anything else. -/
theorem toChar_plain : ∀ digit : Digit,
    -- There are ten digits to check against the list.
    digit.toChar ∉ ['+', '-', '"', '[', '\x7b', 'n', 't', 'f', ' ', '\t', '\n', '\r'] := by
  decide

section Parts

variable {rest : List Char}

/-- Digits before the point are read. -/
theorem readWhole_append {digits : List Digit} (nonempty : digits ≠ [])
    (leads : ∀ more, digits = 0 :: more → more = []) (stops : Digit.Stops rest) :
    readWhole (digits.map Digit.toChar ++ rest) = some (digits, rest) := by
  -- The reader takes all digits that it finds, which are the given ones.
  rw [readWhole, Digit.front_append digits stops]
  -- Only a zero with a digit behind it is refused.
  split
  · next same =>
    cases same
    exact absurd rfl nonempty
  · next same =>
    cases same
    cases leads _ rfl
  · rfl

/-- Without a point, no digits are read after it. -/
theorem readFraction_none (plain : ∀ char ∈ rest.head?, char ≠ '.') :
    readFraction rest = some ([], rest) := by
  -- The reader looks for a point alone, and it is not there.
  rw [readFraction]
  rintro text rfl
  exact plain '.' rfl rfl

/-- Digits after a point are read. -/
theorem readFraction_point {digits : List Digit} (nonempty : digits ≠ [])
    (stops : Digit.Stops rest) :
    readFraction ('.' :: digits.map Digit.toChar ++ rest) = some (digits, rest) := by
  rw [List.cons_append, readFraction, Digit.front_append digits stops]
  -- The digits behind the point are refused only if there are none.
  split
  · next same =>
    cases same
    exact absurd rfl nonempty
  · rfl

/-- A sign is read, and digits without a sign have none. -/
theorem readSign_append (sign : ExponentSign) {digits : List Digit} (nonempty : digits ≠ []) :
    readSign (signChars sign ++ (digits.map Digit.toChar ++ rest))
      = (sign, digits.map Digit.toChar ++ rest) := by
  -- Without a sign, the first digit must not be taken for one.
  cases sign with
  | plus => rfl
  | minus => rfl
  | none =>
    cases digits with
    | nil => exact absurd rfl nonempty
    | cons digit digits =>
      have plain := toChar_plain digit
      -- The first character is that of a digit, and neither of the two signs is a digit.
      rw [signChars, List.nil_append, List.map_cons, List.cons_append, readSign]
      · intro text same
        exact plain (by simp [(List.cons.inj same).1])
      · intro text same
        exact plain (by simp [(List.cons.inj same).1])

/-- Without the mark of an exponent, none is read. -/
theorem readExponent_none (plain : ∀ char ∈ rest.head?, char ≠ 'e' ∧ char ≠ 'E') :
    readExponent rest = some (none, rest) := by
  cases rest with
  | nil => rfl
  | cons mark rest =>
    -- Neither of the two marks is found, so that the text is left as it is.
    have other := plain mark rfl
    rw [readExponent, if_neg (by simp [other])]

/-- An exponent is read. -/
theorem readExponent_append (sign : ExponentSign) {digits : List Digit} (nonempty : digits ≠ [])
    (stops : Digit.Stops rest) :
    readExponent (exponentChars (some (sign, digits)) ++ rest)
      = some (some (sign, digits), rest) := by
  -- The mark is followed by the sign and the digits, which are read one after the other.
  rw [exponentChars, List.append_assoc, List.cons_append, readExponent, if_pos (.inl rfl)]
  simp only [readSign_append sign nonempty, Digit.front_append digits stops]

end Parts

/-- The digits after the point, if there are any, behind the point. -/
def fractionChars (fraction : List Digit) : List Char :=
  if fraction.isEmpty then [] else '.' :: fraction.map Digit.toChar

/-- No digit stands where an exponent or the rest of a text begins. -/
theorem head_exponentChars (exponent : Option (ExponentSign × List Digit)) {rest : List Char}
    (ends : Ends rest) :
    ∀ char ∈ (exponentChars exponent ++ rest).head?, Digit.ofChar? char = none ∧ char ≠ '.' := by
  intro char first
  -- Where there is no exponent, the rest comes at once.
  cases exponent with
  | none =>
    have other := ends char first
    exact ⟨other.1, other.2.1⟩
  -- An exponent begins with its mark.
  | some exponent =>
    cases first
    decide

/-- Neither does one stand where a fraction, an exponent or the rest of a text begins. -/
theorem stops_fractionChars (fraction : List Digit)
    (exponent : Option (ExponentSign × List Digit)) {rest : List Char} (ends : Ends rest) :
    Digit.Stops (fractionChars fraction ++ (exponentChars exponent ++ rest)) := by
  intro char first
  -- A fraction begins with its point, and without one the exponent or the rest comes at once.
  cases fraction with
  | nil => exact (head_exponentChars exponent ends char first).1
  | cons digit digits =>
    cases first
    decide

/-- A fraction is read, be it there or not. -/
theorem readFraction_append (fraction : List Digit)
    (exponent : Option (ExponentSign × List Digit)) {rest : List Char} (ends : Ends rest) :
    readFraction (fractionChars fraction ++ (exponentChars exponent ++ rest))
      = some (fraction, exponentChars exponent ++ rest) := by
  -- What follows the fraction begins neither with a digit nor with a point.
  have follows := head_exponentChars exponent ends
  cases fraction with
  | nil => exact readFraction_none fun char first => (follows char first).2
  | cons digit digits =>
    exact readFraction_point (List.cons_ne_nil _ _) fun char first => (follows char first).1

/-- A numeral that is written reads back, and what follows it is left. -/
theorem read_toChars {numeral : Numeral} (sound : numeral.Sound) {rest : List Char}
    (ends : Ends rest) : read (numeral.toChars ++ rest) = some (numeral, rest) := by
  -- The text falls into the parts that the reader takes off the front, each by its own lemma.
  obtain ⟨negative, whole, fraction, exponent⟩ := numeral
  have spelled : toChars ⟨negative, whole, fraction, exponent⟩ ++ rest
      = (if negative then ['-'] else []) ++ (whole.map Digit.toChar
        ++ (fractionChars fraction ++ (exponentChars exponent ++ rest))) := by
    simp [toChars, fractionChars, List.append_assoc]
  have readsWhole := readWhole_append sound.whole sound.leads
    (stops_fractionChars fraction exponent ends)
  have readsFraction := readFraction_append fraction exponent ends
  have readsExponent : readExponent (exponentChars exponent ++ rest) = some (exponent, rest) := by
    -- Without an exponent, the rest must not begin like one.
    cases exponent with
    | none => exact readExponent_none fun char first => (ends char first).2.2
    | some exponent => exact readExponent_append _ (sound.exponent _ _ rfl) ends.stops
  rw [spelled]
  -- The sign is taken off first, and after it the parts are read in their order.
  cases negative with
  | true =>
    rw [if_pos rfl, List.singleton_append, read]
    simp only [readsWhole, readsFraction, readsExponent, Option.bind_eq_bind, Option.bind_some]
    rfl
  | false =>
    rw [if_neg Bool.false_ne_true, List.nil_append, read]
    · simp only [readsWhole, readsFraction, readsExponent, Option.bind_eq_bind, Option.bind_some]
      rfl
    · -- Without a sign in front, the first character is a digit.
      intro text same
      cases whole with
      | nil => exact sound.whole rfl
      | cons digit digits => exact toChar_plain digit (by simp [(List.cons.inj same).1])

/-- A numeral begins with its sign or with a digit. -/
theorem Sound.toChars_eq_cons {numeral : Numeral} (sound : numeral.Sound) :
    ∃ first rest, numeral.toChars = first :: rest ∧
      (first = '-' ∨ ∃ digit : Digit, first = digit.toChar) := by
  obtain ⟨negative, whole, fraction, exponent⟩ := numeral
  -- There is a first digit, with a sign in front of it or without.
  obtain ⟨digit, digits, rfl⟩ := List.exists_cons_of_ne_nil sound.whole
  cases negative with
  | true => exact ⟨'-', _, rfl, .inl rfl⟩
  | false => exact ⟨digit.toChar, _, rfl, .inr ⟨digit, rfl⟩⟩

/-- A natural number is written by the grammar. -/
theorem sound_ofNat (number : Nat) : (ofNat number).Sound where
  whole := Digit.ofNat_ne_nil number
  leads := by
    intro rest same
    -- Only zero begins with a zero, and it is one digit.
    change Digit.ofNat number = 0 :: rest at same
    rw [Digit.eq_zero_of_ofNat same, Digit.ofNat_zero] at same
    exact (List.cons.inj same).2.symm
  exponent := nofun

/-- A byte that is written reads back. -/
theorem toByte?_ofNat (byte : UInt8) : (ofNat byte.toNat).toByte? = some byte := by
  -- A number below 256 fits in a byte.
  have small : byte.toNat < 256 := byte.toNat_lt
  simp [toByte?, ofNat, Digit.toNat_ofNat, small]

/-- A floating-point number is written by the grammar. -/
theorem sound_ofFloat (number : Float) : (ofFloat number).Sound := by
  have sound := Decimal.Laid.sound_ofFloat .toEven number
  rw [ofFloat]
  generalize Decimal.Laid.ofFloat .toEven number = laid at sound ⊢
  simp only
  -- The notation decides where the point stands, in the midst of the digits or behind the first
  -- one.
  split
  · obtain ⟨nonempty, leads⟩ := sound.aroundPoint
    exact ⟨nonempty, leads, nofun⟩
  · -- One digit stands before the point, be it a zero or not.
    obtain ⟨digit, digits, spelled⟩ := List.exists_cons_of_ne_nil sound.nonempty
    refine ⟨by simp [spelled], fun rest same => ?_, fun sign digits same => ?_⟩
    · simp only [spelled, List.take_succ_cons, List.take_zero] at same
      exact (List.cons.inj same).2.symm
    · cases same
      exact Digit.ofNat_ne_nil _

end BmcTelemetry.Numeral
