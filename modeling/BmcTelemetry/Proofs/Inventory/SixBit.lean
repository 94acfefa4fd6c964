import BmcTelemetry.Proofs.Inventory.Product
import BmcTelemetry.Proofs.Text.Blank
import Mathlib.Data.List.Basic
import Mathlib.Data.Nat.Digits.Defs

/-!
Packed characters: what is shifted out of the cells of a register is what was packed.

The cells hold one number, of which a shift drops the lowest six bits. Packed bytes are the digits
of that number to the base 256, and the characters are its digits to the base 64.
-/

namespace BmcTelemetry.Inventory.Field

/-- The characters whose values are the lowest digits of a number to the base 64, lowest first. -/
def sixBitChars : Nat → Nat → List Char
  | _, 0 => []
  | number, count + 1 => Char.ofNat (0x20 + number % 64) :: sixBitChars (number / 64) count

/-- So many digits make so many characters. -/
@[simp] theorem length_sixBitChars (number count : Nat) :
    (sixBitChars number count).length = count := by
  -- Every step takes one digit off, so the number stays quantified over.
  induction count generalizing number with
  | zero => rfl
  | succ count ih => rw [sixBitChars, List.length_cons, ih]

/-- Digits above the ones that are read do not matter. -/
theorem sixBitChars_add_mul (low high count : Nat) :
    sixBitChars (low + 64 ^ count * high) count = sixBitChars low count := by
  induction count generalizing low with
  | zero => rfl
  | succ count ih =>
    -- With the lowest digit taken off, the high part is still a multiple of the next power.
    have split : low + 64 ^ (count + 1) * high = low + 64 * (64 ^ count * high) := by
      rw [Nat.pow_succ']
      ring
    rw [sixBitChars, sixBitChars, split, Nat.add_mul_mod_self_left,
      Nat.add_mul_div_left _ _ (by decide), ih]

/-- The digits behind some others are those of the quotient. -/
theorem sixBitChars_add (number first second : Nat) :
    sixBitChars number (first + second)
      = sixBitChars number first ++ sixBitChars (number / 64 ^ first) second := by
  -- The digits in front are taken one by one, each leaving a quotient for those behind.
  induction first generalizing number with
  | zero => simp [sixBitChars]
  | succ first ih =>
    -- Dividing by one digit and then by a power is dividing by the next power.
    rw [Nat.succ_add_eq_add_succ, Nat.add_succ, sixBitChars, sixBitChars, ih, List.cons_append,
      Nat.div_div_eq_div_mul, ← Nat.pow_succ']

namespace Register

/-- The number that the cells hold, the first of them its lowest byte. -/
def value (register : Register) : Nat :=
  register.first.toNat + 256 * register.second.toNat + 65536 * register.third.toNat
    + 16777216 * register.fourth.toNat

/-- The lowest six bits of a cell are its remainder. -/
theorem toNat_lowBits (cell : UInt8) : (cell &&& 0x3f).toNat = cell.toNat % 64 := by
  -- The mask is one less than a power of two, so masking is taking the remainder.
  rw [UInt8.toNat_and]
  exact Nat.and_two_pow_sub_one_eq_mod _ 6

/-- The highest two bits of a cell are its quotient. -/
theorem toNat_highBits (cell : UInt8) : (cell >>> 6).toNat = cell.toNat / 64 := by
  -- A shift to the right by six bits is a division by two to the sixth.
  rw [UInt8.toNat_shiftRight]
  exact Nat.shiftRight_eq_div_pow _ 6

/-- A cell keeps its two highest bits, below the six lowest of the next one. -/
theorem toNat_taken (cell next : UInt8) :
    (cell >>> 6 ||| (next &&& 0x3f) <<< 2).toNat = cell.toNat / 64 + next.toNat % 64 * 4 := by
  -- Six bits moved up by two still fit into a byte, so nothing is lost at the top.
  have low : ((next &&& 0x3f) <<< 2).toNat = (next.toNat % 64) <<< 2 := by
    rw [UInt8.toNat_shiftLeft, toNat_lowBits]
    refine Nat.mod_eq_of_lt ?_
    show (next.toNat % 64) <<< 2 < 256
    rw [Nat.shiftLeft_eq]
    omega
  -- The bits do not meet, so that joining them is adding them up.
  have byte := cell.toNat_lt
  have apart : cell.toNat / 64 < 2 ^ 2 := by omega
  rw [UInt8.toNat_or, toNat_highBits, low, Nat.or_comm, ← Nat.shiftLeft_add_eq_or_of_lt apart,
    Nat.shiftLeft_eq]
  omega

/-- A shift drops the lowest six bits of what the cells hold. -/
theorem value_shift (register : Register) : register.shift.value = register.value / 64 := by
  -- With every cell written as a quotient and a remainder, what is left is arithmetic.
  simp only [value, shift, toNat_taken, toNat_highBits]
  omega

/-- The character that is read is the lowest digit to the base 64. -/
theorem char_eq (register : Register) :
    register.char = Char.ofNat (0x20 + register.value % 64) := by
  -- The largest six bits and the offset of the space stay below 256, so the sum does not wrap.
  have biased : ((register.first &&& 0x3f) + 0x20).toNat = register.first.toNat % 64 + 0x20 := by
    rw [UInt8.toNat_add, toNat_lowBits]
    refine Nat.mod_eq_of_lt ?_
    show register.first.toNat % 64 + 0x20 < 256
    omega
  -- The other cells hold multiples of 64.
  have lowest : register.value % 64 = register.first.toNat % 64 := by
    unfold value
    omega
  rw [char, biased, lowest, Nat.add_comm]

/-- Characters are read digit by digit, and the quotient stays. -/
theorem readChars_eq (register : Register) (count : Nat) :
    (register.readChars count).1 = sixBitChars register.value count ∧
      (register.readChars count).2.value = register.value / 64 ^ count := by
  -- Each character shifts the register, so the register stays quantified over.
  induction count generalizing register with
  | zero => exact ⟨rfl, (Nat.div_one _).symm⟩
  | succ count ih =>
    obtain ⟨chars, rest⟩ := ih register.shift
    constructor
    -- The first character is the lowest digit, and the others are digits of the quotient.
    · rw [readChars, sixBitChars, ← value_shift, ← chars, char_eq]
    -- Dividing once and then by a power is dividing by the next power.
    · rw [readChars, rest, value_shift, Nat.div_div_eq_div_mul, ← Nat.pow_succ']

/-- A register whose last cell is clear has room for the three bytes of a group. -/
theorem value_load {register : Register} (clear : register.fourth = 0) (first second third : UInt8) :
    (register.load first second third).value
      = first.toNat + 256 * (second.toNat + 256 * third.toNat) := by
  -- The last cell keeps what it held, which is nothing here.
  rw [value, load, clear, UInt8.toNat_zero]
  ring

/-- After the four characters of a group the last cell is clear again. -/
theorem readChars_clear {register : Register} (clear : register.fourth = 0)
    (first second third : UInt8) :
    ((register.load first second third).readChars 4).2.fourth = 0 := by
  -- Four digits are gone, which are all the bits that three bytes have.
  have emptied := (readChars_eq (register.load first second third) 4).2
  rw [value_load clear] at emptied
  have firstByte := first.toNat_lt
  have secondByte := second.toNat_lt
  have thirdByte := third.toNat_lt
  rw [Nat.div_eq_of_lt (by omega)] at emptied
  -- Nothing is left of the three bytes, in the last cell as little as in the others.
  apply UInt8.toNat_inj.mp
  unfold value at emptied
  rw [UInt8.toNat_zero]
  omega

/-- Unpacking bytes turns digits to the base 256 into digits to the base 64. -/
theorem unpack_eq {register : Register} (clear : register.fourth = 0) (bytes : Bytes) :
    register.unpack bytes
      = sixBitChars (Nat.ofDigits 256 (bytes.map UInt8.toNat)) (4 * ((bytes.length + 2) / 3)) := by
  -- A group leaves the last cell clear for the next one, and a last group lacks only zeros.
  induction register, bytes using unpack.induct with
  -- Without bytes there is nothing to unpack.
  | case1 => rfl
  -- One byte alone is a group that lacks the other two.
  | case2 register first =>
    rw [unpack, (readChars_eq _ 4).1, value_load clear]
    simp [Nat.ofDigits_cons]
  | case3 register first second =>
    rw [unpack, (readChars_eq _ 4).1, value_load clear]
    simp [Nat.ofDigits_cons]
  | case4 register first second third rest chars emptied read ih =>
    have front := (readChars_eq (register.load first second third) 4).1
    have clearAgain := readChars_clear clear first second third
    rw [value_load clear] at front
    rw [read] at front clearAgain
    -- The bytes of the group and those of the rest are the low and the high part of the number.
    have split : Nat.ofDigits 256 ((first :: second :: third :: rest).map UInt8.toNat)
        = first.toNat + 256 * (second.toNat + 256 * third.toNat)
          + 64 ^ 4 * Nat.ofDigits 256 (rest.map UInt8.toNat) := by
      simp only [List.map_cons, Nat.ofDigits_cons]
      ring
    -- The first group takes four characters, and the rest is grouped as before.
    have groups : 4 * (((first :: second :: third :: rest).length + 2) / 3)
        = 4 + 4 * ((rest.length + 2) / 3) := by
      simp only [List.length_cons]
      omega
    have firstByte := first.toNat_lt
    have secondByte := second.toNat_lt
    have thirdByte := third.toNat_lt
    -- The digits of the group are those of the low part, and all others those of the high part.
    rw [unpack, read, split, groups, sixBitChars_add, sixBitChars_add_mul,
      Nat.add_mul_div_left _ _ (by decide), Nat.div_eq_of_lt (by omega), Nat.zero_add]
    show chars ++ emptied.unpack rest = _
    rw [← front, ih clearAgain]

end Register

/-- The room for the characters of so many bytes is that of their groups of three. -/
theorem sixBitRoom_eq (count : Nat) : sixBitRoom count = 4 * ((count + 2) / 3) := by
  unfold sixBitRoom
  omega

/-- No character that is unpacked is ever cut off. -/
theorem decodeSixBit_eq (bytes : Bytes) : decodeSixBit bytes = Register.empty.unpack bytes := by
  -- The room is never less than what comes out, so the cut at its end takes nothing off.
  rw [decodeSixBit, List.take_of_length_le]
  rw [Register.unpack_eq rfl, length_sixBitChars, sixBitRoom_eq]

/-- A character among the sixty-four that can be packed. -/
def Packable (char : Char) : Prop :=
  0x20 ≤ char.toNat ∧ char.toNat ≤ 0x5F

/-- The number whose digits to the base 64 are the values of some characters, the first lowest. -/
def sixBitNumber (chars : List Char) : Nat :=
  Nat.ofDigits 64 (chars.map fun char => char.toNat - 0x20)

/-- The lowest bytes of a number, lowest first. -/
def lowBytes : Nat → Nat → Bytes
  | _, 0 => []
  | number, count + 1 => UInt8.ofNat (number % 256) :: lowBytes (number / 256) count

/-- Characters packed into as few bytes as have room for six bits each; bits left over are zero. -/
def packSixBit (chars : List Char) : Bytes :=
  lowBytes (sixBitNumber chars) ((6 * chars.length + 7) / 8)

/-- The lowest bytes of a number are as many as asked for. -/
@[simp] theorem length_lowBytes (number count : Nat) : (lowBytes number count).length = count := by
  -- One byte comes with each step, whatever the number has become.
  induction count generalizing number with
  | zero => rfl
  | succ count ih => rw [lowBytes, List.length_cons, ih]

/-- The lowest bytes of a number that is small enough spell it. -/
theorem ofDigits_lowBytes {number count : Nat} (small : number < 256 ^ count) :
    Nat.ofDigits 256 ((lowBytes number count).map UInt8.toNat) = number := by
  induction count generalizing number with
  | zero =>
    -- With no bytes at all only zero is small enough.
    rw [Nat.pow_zero] at small
    simp [lowBytes]
    omega
  | succ count ih =>
    -- One more byte allows for a factor of 256 more.
    rw [Nat.pow_succ] at small
    have lowest : (UInt8.ofNat (number % 256)).toNat = number % 256 := Bytes.toNat_byte (by omega)
    -- The other bytes spell the quotient.
    rw [lowBytes, List.map_cons, Nat.ofDigits_cons, lowest, ih (Nat.div_lt_of_lt_mul (by omega)),
      Nat.mod_add_div]

/-- The number of packed characters has no more digits than there are characters. -/
theorem sixBitNumber_lt {chars : List Char} (packable : ∀ char ∈ chars, Packable char) :
    sixBitNumber chars < 64 ^ chars.length := by
  -- The value of each character is one digit.
  have digits : ∀ digit ∈ chars.map (fun char => char.toNat - 0x20), digit < 64 := by
    intro digit member
    obtain ⟨char, inside, rfl⟩ := List.mem_map.mp member
    have bounds := packable char inside
    unfold Packable at bounds
    omega
  -- A number with digits below the base is below the power of the base.
  have bound := Nat.ofDigits_lt_base_pow_length (show 1 < 64 by decide) digits
  rwa [List.length_map] at bound

/-- The digits of a packed number are the characters, and then spaces. -/
theorem sixBitChars_number {chars : List Char} (packable : ∀ char ∈ chars, Packable char)
    {count : Nat} (room : chars.length ≤ count) :
    sixBitChars (sixBitNumber chars) count
      = chars ++ List.replicate (count - chars.length) ' ' := by
  -- One character is read for each digit, as long as there are characters left.
  induction count generalizing chars with
  | zero =>
    -- With no room at all there are no characters either.
    obtain rfl := List.eq_nil_of_length_eq_zero (Nat.le_zero.mp room)
    rfl
  | succ count ih =>
    cases chars with
    | nil =>
      -- All digits of zero are zero, and zero is the value of the space.
      have spaces := @ih [] (by simp) (Nat.zero_le _)
      rw [sixBitChars, List.nil_append, List.length_nil, Nat.sub_zero, List.replicate_succ]
      simpa [sixBitNumber] using spaces
    | cons char rest =>
      -- The value of the first character is the lowest digit, and the rest makes up the quotient.
      have bounds := packable char List.mem_cons_self
      unfold Packable at bounds
      have number : sixBitNumber (char :: rest) = char.toNat - 0x20 + 64 * sixBitNumber rest := by
        simp only [sixBitNumber, List.map_cons, Nat.ofDigits_cons]
      have lowest : 0x20 + (char.toNat - 0x20) % 64 = char.toNat := by omega
      have others : (char.toNat - 0x20 + 64 * sixBitNumber rest) / 64 = sixBitNumber rest := by omega
      rw [sixBitChars, number, Nat.add_mul_mod_self_left, lowest, Char.ofNat_toNat, others,
        ih (fun other member => packable other (List.mem_cons_of_mem _ member)) (by simpa using room),
        List.cons_append, List.length_cons, Nat.add_sub_add_right]

/-- Unpacking gives the packed characters back, with spaces for the bits that were left over. -/
theorem decodeSixBit_pack {chars : List Char} (packable : ∀ char ∈ chars, Packable char) :
    decodeSixBit (packSixBit chars) = chars ++
      List.replicate (4 * (((packSixBit chars).length + 2) / 3) - chars.length) ' ' := by
  have length : (packSixBit chars).length = (6 * chars.length + 7) / 8 := length_lowBytes _ _
  -- Six bits for each character make no more than eight for each byte.
  have room : sixBitNumber chars < 256 ^ ((6 * chars.length + 7) / 8) := by
    refine Nat.lt_of_lt_of_le (sixBitNumber_lt packable) ?_
    calc 64 ^ chars.length = 2 ^ (6 * chars.length) := by rw [Nat.pow_mul]
      _ ≤ 2 ^ (8 * ((6 * chars.length + 7) / 8)) := Nat.pow_le_pow_right (by decide) (by omega)
      _ = 256 ^ ((6 * chars.length + 7) / 8) := by rw [Nat.pow_mul]
  -- The bytes spell the packed number, and its digits are the characters again.
  rw [decodeSixBit_eq, Register.unpack_eq rfl, packSixBit, ofDigits_lowBytes room, ← packSixBit,
    sixBitChars_number packable (by omega)]

/--
Packing is undone by unpacking.

What comes out are the characters and then nothing but spaces, four for every three bytes, and none
of them is cut off. A field with packed characters in which no byte marks an end holds their text.
-/
theorem sixBit_undoes_packing {text : String}
    (packable : ∀ char ∈ text.toList, 0x20 ≤ char.toNat ∧ char.toNat ≤ 0x5F) :
    let packed := packSixBit text.toList
    packed.length = (6 * text.length + 7) / 8 ∧
      (∃ spaces, decodeSixBit packed = text.toList ++ List.replicate spaces ' ') ∧
      (decodeSixBit packed).length = 4 * ((packed.length + 2) / 3) ∧
      decodeSixBit packed = Register.empty.unpack packed ∧
      (packed.length ≤ 63 → (∀ byte ∈ packed, byte ≠ 0x00 ∧ byte ≠ 0xFF) → ∀ rest,
        decode ((0x80 ||| UInt8.ofNat packed.length) :: (packed ++ rest)) = trimmed text) := by
  intro packed
  have unpacked := decodeSixBit_pack packable
  refine ⟨length_lowBytes _ _, ⟨_, unpacked⟩, ?_, decodeSixBit_eq packed,
    fun short unmarked rest => ?_⟩
  -- Whole groups come out, also where the last one has fewer than three bytes.
  · rw [decodeSixBit_eq, Register.unpack_eq rfl, length_sixBitChars]
  · -- The spaces behind the characters are trimmed with whatever else is blank there.
    have blank : ∀ char ∈ List.replicate
        (4 * (((packSixBit text.toList).length + 2) / 3) - text.toList.length) ' ',
        Text.isBlank char = true := by
      intro char member
      rw [List.eq_of_mem_replicate member]
      decide
    show decode (ofBytes .sixBit packed ++ rest) = trimmed text
    -- No byte marks an end, so that the field has all of its packed content.
    rw [decode_ofBytes .sixBit short, content_eq_self unmarked, spell, unpacked,
      Text.trim_append_blanks _ blank, trimmed]

/-- Nine characters take seven bytes, the last of which is a group of its own. -/
theorem sixBit_undoes_packing_spansGroups :
    (∀ char ∈ " IPMI 2.0".toList, 0x20 ≤ char.toNat ∧ char.toNat ≤ 0x5F) ∧
      packSixBit " IPMI 2.0".toList = [0x40, 0x0a, 0xb7, 0x29, 0x20, 0x39, 0x10] ∧
      (decodeSixBit (packSixBit " IPMI 2.0".toList)).length = 12 ∧
      decode [0x87, 0x40, 0x0a, 0xb7, 0x29, 0x20, 0x39, 0x10, 0xc1] = "IPMI 2.0" := by
  -- The text, its packing and the field are all closed, so each is computed.
  have packable : ∀ char ∈ " IPMI 2.0".toList, 0x20 ≤ char.toNat ∧ char.toNat ≤ 0x5F :=
    List.forall_iff_forall_mem.mp (by decide)
  have packed : packSixBit " IPMI 2.0".toList = [0x40, 0x0a, 0xb7, 0x29, 0x20, 0x39, 0x10] := by
    decide +kernel
  obtain ⟨_, _, unpacked, _, decoded⟩ := sixBit_undoes_packing packable
  rw [packed] at decoded unpacked
  refine ⟨packable, packed, by rw [packed]; exact unpacked, ?_⟩
  rw [show "IPMI 2.0" = trimmed " IPMI 2.0" by decide]
  exact decoded (by decide) (List.forall_iff_forall_mem.mp (by decide)) [0xc1]

end BmcTelemetry.Inventory.Field
