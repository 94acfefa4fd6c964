import BmcTelemetry.Proofs.Bytes
import BmcTelemetry.Text.Utf8

/-! UTF-8 reads back: the bytes of any text are decoded to the text. -/

namespace BmcTelemetry.Utf8

/-- The bytes of a text. -/
def encode (chars : List Char) : Bytes :=
  chars.flatMap String.utf8EncodeChar

/-- The bytes of a string are those of its characters. -/
theorem toUTF8_eq_encode (text : String) : text.toUTF8.data.toList = encode text.toList := by
  rw [String.toUTF8_eq_toByteArray, ← String.utf8Encode_toList, List.utf8Encode,
    List.data_toByteArray, encode]

/-- A code that no surrogate has and that is not past the last character. -/
theorem toNat_valid (char : Char) :
    char.toNat < 0xD800 ∨ 0xDFFF < char.toNat ∧ char.toNat < 0x110000 := char.valid

section Leads

variable {first : UInt8} {bits : Nat}

/-- A first byte of two. -/
theorem lead?_two (code : first.toNat = 0xC0 + bits) (least : 2 ≤ bits) (most : bits < 32) :
    lead? first = some ⟨bits, [(0x80, 0xBF)]⟩ := by
  -- The first bits say how many bytes follow, and each number of them has a range of its own.
  simp only [lead?, code]
  rw [if_neg (by omega), if_neg (by omega), if_pos (by omega), Nat.add_sub_cancel_left]

/-- A first byte of three; what may follow is narrowed at two of them. -/
theorem lead?_three (code : first.toNat = 0xE0 + bits) (most : bits < 16) :
    lead? first = some ⟨bits, [(if bits = 0 then 0xA0 else 0x80, if bits = 13 then 0x9F else 0xBF),
      (0x80, 0xBF)]⟩ := by
  simp only [lead?, code]
  rw [if_neg (by omega), if_neg (by omega), if_neg (by omega)]
  -- At the low end, the next byte may not spell a character that has two bytes.
  by_cases low : bits = 0
  · simp [low]
  -- At the surrogates, the next byte may not reach one of them.
  · by_cases surrogate : bits = 13
    · simp [surrogate]
    · rw [if_neg (by omega), if_neg (by omega), if_pos (by omega), Nat.add_sub_cancel_left,
        if_neg low, if_neg surrogate]

/-- A first byte of four; what may follow is narrowed at the first and the last of them. -/
theorem lead?_four (code : first.toNat = 0xF0 + bits) (most : bits ≤ 4) :
    lead? first = some ⟨bits, [(if bits = 0 then 0x90 else 0x80, if bits = 4 then 0x8F else 0xBF),
      (0x80, 0xBF), (0x80, 0xBF)]⟩ := by
  simp only [lead?, code]
  -- All ranges for fewer bytes are below the first byte.
  rw [if_neg (by omega), if_neg (by omega), if_neg (by omega), if_neg (by omega),
    if_neg (by omega), if_neg (by omega)]
  -- At the low end, the next byte may not spell a character that has three bytes.
  by_cases low : bits = 0
  · simp [low]
  -- At the high end, the next byte may not reach past the last character.
  · by_cases high : bits = 4
    · simp [high]
    · rw [if_neg (by omega), if_pos (by omega), Nat.add_sub_cancel_left, if_neg low, if_neg high]

end Leads

/-- A later byte with six bits of a character is followed where its range allows it. -/
theorem follow_trail {least greatest digit bits : Nat} {ranges : List (Nat × Nat)}
    {rest : Bytes} (small : digit < 64) (low : least ≤ digit + 128) (high : digit + 128 ≤ greatest)
    {found : Option Char} {count : Nat}
    (more : follow ranges (bits * 64 + digit) rest = (found, count)) :
    follow ((least, greatest) :: ranges) bits (UInt8.ofNat (digit + 128) :: rest)
      = (found, count + 1) := by
  -- The two marking bits leave six bits for the character, so that the byte is in its range.
  have byte : (UInt8.ofNat (digit + 128)).toNat = digit + 128 := Bytes.toNat_byte (by omega)
  rw [follow, byte, if_pos ⟨low, high⟩, show (digit + 128) % 64 = digit by omega, more]

/-- With all bits together, the character is complete. -/
theorem follow_nil (char : Char) {bits : Nat} (complete : bits = char.toNat) (rest : Bytes) :
    follow [] bits rest = (some char, 0) := by
  rw [follow, complete, Char.ofNat_toNat]

section Fronts

variable {char : Char} (rest : Bytes)

/-- A character of one byte is found. -/
theorem front_one (most : char.toNat ≤ 0x7F) :
    front (UInt8.ofNat char.toNat) rest = (some char, 0) := by
  -- A character this low is its only byte, and that byte promises no others.
  have code : (UInt8.ofNat char.toNat).toNat = char.toNat := Bytes.toNat_byte (by omega)
  have lead : lead? (UInt8.ofNat char.toNat) = some ⟨char.toNat, []⟩ := by
    simp only [lead?, code]
    rw [if_pos (by omega)]
  rw [front, lead]
  exact follow_nil char rfl rest

/-- A character of two bytes is found. -/
theorem front_two (least : 0x7F < char.toNat) (most : char.toNat ≤ 0x7FF) :
    front (UInt8.ofNat (char.toNat / 64 % 32 + 192))
      (UInt8.ofNat (char.toNat % 64 + 128) :: rest) = (some char, 1) := by
  -- The first byte holds what the last six bits leave, and the other byte the six bits.
  have code : (UInt8.ofNat (char.toNat / 64 % 32 + 192)).toNat = 0xC0 + char.toNat / 64 :=
    (Bytes.toNat_byte (by omega)).trans (by omega)
  -- Put together again, the two parts are the code.
  have complete : char.toNat / 64 * 64 + char.toNat % 64 = char.toNat := by omega
  rw [front, lead?_two code (by omega) (by omega)]
  exact follow_trail (by omega) (by omega) (by omega) (follow_nil char complete rest)

/-- A character of three bytes is found, since it is no surrogate. -/
theorem front_three (least : 0x7FF < char.toNat) (most : char.toNat ≤ 0xFFFF) :
    front (UInt8.ofNat (char.toNat / 4096 % 16 + 224))
      (UInt8.ofNat (char.toNat / 64 % 64 + 128) :: UInt8.ofNat (char.toNat % 64 + 128) :: rest)
      = (some char, 2) := by
  have valid := toNat_valid char
  -- Each byte has six bits of the code, and the first one the rest.
  have code : (UInt8.ofNat (char.toNat / 4096 % 16 + 224)).toNat = 0xE0 + char.toNat / 4096 :=
    (Bytes.toNat_byte (by omega)).trans (by omega)
  have complete : (char.toNat / 4096 * 64 + char.toNat / 64 % 64) * 64 + char.toNat % 64
      = char.toNat := by omega
  rw [front, lead?_three code (by omega)]
  -- The next byte keeps to its narrowed range, as the character has no shorter form and is no
  -- surrogate.
  refine follow_trail (by omega) ?_ ?_ (follow_trail (by omega) (by omega) (by omega)
    (follow_nil char complete rest))
  · split <;> omega
  · split <;> omega

/-- A character of four bytes is found, since it is none past the last. -/
theorem front_four (least : 0xFFFF < char.toNat) :
    front (UInt8.ofNat (char.toNat / 262144 % 8 + 240))
      (UInt8.ofNat (char.toNat / 4096 % 64 + 128) :: UInt8.ofNat (char.toNat / 64 % 64 + 128)
        :: UInt8.ofNat (char.toNat % 64 + 128) :: rest) = (some char, 3) := by
  have valid := toNat_valid char
  -- Three bytes have six bits each, and what is left of the code is four at most.
  have code : (UInt8.ofNat (char.toNat / 262144 % 8 + 240)).toNat = 0xF0 + char.toNat / 262144 :=
    (Bytes.toNat_byte (by omega)).trans (by omega)
  have complete : ((char.toNat / 262144 * 64 + char.toNat / 4096 % 64) * 64
      + char.toNat / 64 % 64) * 64 + char.toNat % 64 = char.toNat := by omega
  rw [front, lead?_four code (by omega)]
  -- The next byte keeps to its narrowed range, as the code is neither short nor past the last one.
  refine follow_trail (by omega) ?_ ?_ (follow_trail (by omega) (by omega) (by omega)
    (follow_trail (by omega) (by omega) (by omega) (follow_nil char complete rest)))
  · split <;> omega
  · split <;> omega

end Fronts

/-- The bytes of a character begin it, and all the others belong to it. -/
theorem front_encoded (char : Char) : ∃ first others,
    String.utf8EncodeChar char = first :: others ∧
      ∀ rest, front first (others ++ rest) = (some char, others.length) := by
  -- The code decides how many bytes there are, by the four ranges of the encoding.
  rw [String.utf8EncodeChar]
  by_cases one : char.toNat ≤ 0x7F
  · exact ⟨_, _, if_pos one, fun rest => front_one rest one⟩
  by_cases two : char.toNat ≤ 0x7FF
  · exact ⟨_, _, (if_neg one).trans (if_pos two), fun rest => front_two rest (by omega) two⟩
  by_cases three : char.toNat ≤ 0xFFFF
  · exact ⟨_, _, (if_neg one).trans ((if_neg two).trans (if_pos three)),
      fun rest => front_three rest (by omega) three⟩
  · exact ⟨_, _, (if_neg one).trans ((if_neg two).trans (if_neg three)),
      fun rest => front_four rest (by omega)⟩

/-- The bytes of a text are decoded to the text. -/
theorem decodeLossy_encode (chars : List Char) : decodeLossy (encode chars) = chars := by
  -- One character is read at a time, with its bytes taken off the front.
  induction chars with
  | nil => rw [encode, List.flatMap_nil, decodeLossy]
  | cons char chars ih =>
    obtain ⟨first, others, spelled, found⟩ := front_encoded char
    -- The others are passed over, and the bytes of the rest remain.
    rw [encode, List.flatMap_cons, spelled, List.cons_append, decodeLossy, found,
      Option.getD_some, List.drop_left]
    exact congrArg (char :: ·) ih

/-- The bytes of a text are accepted, since none of its characters is ill-formed. -/
theorem decode?_encode (chars : List Char) : decode? (encode chars) = some chars := by
  -- The same characters are found as by the tolerant reading, and each of them is there.
  induction chars with
  | nil => rw [encode, List.flatMap_nil, decode?]
  | cons char chars ih =>
    obtain ⟨first, others, spelled, found⟩ := front_encoded char
    -- The others are passed over, and the bytes of the rest remain.
    have rest : decode? (chars.flatMap String.utf8EncodeChar) = some chars := ih
    rw [encode, List.flatMap_cons, spelled, List.cons_append, decode?]
    simp only [found, List.drop_left, rest, Option.map_some]

/-- A byte of a character is the whole of it, or has its top bit set and another one clear. -/
theorem byte_encoded {char : Char} {byte : UInt8} (member : byte ∈ String.utf8EncodeChar char) :
    byte.toNat = char.toNat ∧ char.toNat ≤ 0x7F ∨ 0x80 ≤ byte.toNat ∧ byte.toNat < 0xFF := by
  have valid := toNat_valid char
  rw [String.utf8EncodeChar, show char.val.toNat = char.toNat from rfl] at member
  -- Later bytes have their top bit set, and so has the first one of several.
  have high : ∀ number, 0x80 ≤ number → number < 0xFF → byte = UInt8.ofNat number →
      byte.toNat = char.toNat ∧ char.toNat ≤ 0x7F ∨ 0x80 ≤ byte.toNat ∧ byte.toNat < 0xFF := by
    rintro number least most rfl
    rw [Bytes.toNat_byte (by omega)]
    exact .inr ⟨least, most⟩
  -- A single byte is the character itself, and every byte of a longer form is marked as part of it.
  by_cases one : char.toNat ≤ 0x7F
  · simp only [one, if_true, List.mem_singleton] at member
    subst member
    exact .inl ⟨Bytes.toNat_byte (by omega), one⟩
  by_cases two : char.toNat ≤ 0x7FF
  -- Of two bytes, the first one is at least 0xC2 and the other one at least 0x80.
  · simp only [one, two, if_true, if_false, List.mem_cons, List.not_mem_nil, or_false] at member
    rcases member with same | same <;> exact high _ (by omega) (by omega) same
  by_cases three : char.toNat ≤ 0xFFFF
  · simp only [one, two, three, if_true, if_false, List.mem_cons, List.not_mem_nil, or_false]
      at member
    rcases member with same | same | same <;> exact high _ (by omega) (by omega) same
  · simp only [one, two, three, if_false, List.mem_cons, List.not_mem_nil, or_false] at member
    rcases member with same | same | same | same <;> exact high _ (by omega) (by omega) same

/-- No byte of a text marks an end, when no character of it does. -/
theorem encode_marks {chars : List Char} (unmarked : '\x00' ∉ chars) :
    ∀ byte ∈ encode chars, byte ≠ 0x00 ∧ byte ≠ 0xFF := by
  intro byte member
  -- The byte belongs to one of the characters.
  obtain ⟨char, listed, member⟩ := List.mem_flatMap.mp member
  have whole := byte_encoded member
  constructor
  · rintro rfl
    -- Only the character zero has a byte zero.
    have zero : char.toNat = 0 := by
      rcases whole with ⟨same, _⟩ | ⟨low, _⟩
      · exact same.symm
      · exact absurd low (by decide)
    have same : char = '\x00' := by rw [← Char.ofNat_toNat char, zero]
    exact unmarked (same ▸ listed)
  · rintro rfl
    -- A single byte is below the mark at the end, and so are all bytes of longer forms.
    rcases whole with ⟨same, small⟩ | ⟨_, high⟩
    · rw [← same] at small
      exact absurd small (by decide)
    · exact absurd high (by decide)

end BmcTelemetry.Utf8
