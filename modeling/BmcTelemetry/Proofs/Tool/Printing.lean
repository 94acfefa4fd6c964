import BmcTelemetry.Proofs.Text.Pieces
import BmcTelemetry.Text.Utf8
import BmcTelemetry.Tool.Output

/-! Printed bytes: texts that spell bytes in two digits each are read back as those bytes. -/

namespace BmcTelemetry

namespace Text

/-- Blanks in front of a text make no word. -/
theorem words_blanks {gap : List Char} (blank : ∀ char ∈ gap, isBlank char = true)
    (text : List Char) : words (gap ++ text) = words text := by
  -- A blank ends a piece without characters, which is no word.
  induction gap with
  | nil => rfl
  | cons char rest ih =>
    have onward := ih fun other member => blank other (List.mem_cons_of_mem _ member)
    -- The blank is a separator, so the piece in front of it is empty.
    rw [List.cons_append, words, pieces_separator (blank char (by simp)), List.filter_cons_of_neg
      (by simp)]
    exact onward

/-- Nothing but blanks is no word. -/
theorem words_only_blanks {gap : List Char} (blank : ∀ char ∈ gap, isBlank char = true) :
    words gap = [] := by
  -- A text of blanks is one with nothing behind the blanks.
  have words := words_blanks blank []
  rw [List.append_nil] at words
  exact words

/-- A text ends or goes on with a blank. -/
def Bounded (text : List Char) : Prop :=
  ∀ char, text.head? = some char → isBlank char = true

/-- Characters up to a blank or the end make a word. -/
theorem words_token {token text : List Char} (nonempty : token ≠ [])
    (solid : ∀ char ∈ token, isBlank char = false) (bounded : Bounded text) :
    words (token ++ text) = token :: words text := by
  -- What follows the token begins with an empty piece, so the token is a piece by itself.
  have cut : ∃ others, pieces isBlank text = [] :: others := by
    -- At the end of the text there is nothing, and otherwise a blank.
    cases text with
    | nil => exact ⟨[], rfl⟩
    | cons char rest => exact ⟨_, pieces_separator (bounded char rfl) rest⟩
  obtain ⟨others, cut⟩ := cut
  -- The token is a piece with characters, and the empty one behind it is filtered out.
  rw [words, words, pieces_append solid cut, cut, List.append_nil,
    List.filter_cons_of_pos (by simpa using nonempty), List.filter_cons_of_neg (by simp)]

end Text

namespace Tool

/-- A token spells a byte in two digits of either case, with or without one mark in front. -/
def SpellsByte (byte : UInt8) (token : List Char) : Prop :=
  ∃ high low, Hex.value? high = some (byte.toNat / 16) ∧
    Hex.value? low = some (byte.toNat % 16) ∧ (token = [high, low] ∨ token = ['0', 'x', high, low])

/-- A text spells bytes by tokens with blanks between them, before them and after them. -/
inductive Spells : Bytes → List Char → Prop
  /-- Blanks spell no bytes. -/
  | blanks {gap : List Char} (blank : ∀ char ∈ gap, Text.isBlank char = true) : Spells [] gap
  /-- A token spells its byte, and what follows it spells the rest. -/
  | token {byte : UInt8} {rest : Bytes} {gap token text : List Char}
      (blank : ∀ char ∈ gap, Text.isBlank char = true) (spells : SpellsByte byte token)
      (bounded : Text.Bounded text) (onward : Spells rest text) :
      Spells (byte :: rest) (gap ++ token ++ text)

/-- A digit is no blank, no sign and no mark. -/
theorem digit_solid {char : Char} {value : Nat} (digit : Hex.value? char = some value) :
    Text.isBlank char = false ∧ char ≠ '+' ∧ char ≠ 'x' := by
  -- Digits lie in three ranges of codes, and none of the others does.
  have ranges : (48 ≤ char.toNat ∧ char.toNat ≤ 57) ∨ (97 ≤ char.toNat ∧ char.toNat ≤ 102) ∨
      (65 ≤ char.toNat ∧ char.toNat ≤ 70) := by
    -- Each range of digits is tested in turn, and a character in none of them has no value.
    unfold Hex.value? at digit
    split at digit
    · exact .inl ‹_›
    · split at digit
      · exact .inr (.inl ‹_›)
      · split at digit
        · exact .inr (.inr ‹_›)
        · cases digit
  refine ⟨?_, ?_, ?_⟩
  · -- None of the blanks has the code of a digit.
    simp only [Text.isBlank, Bool.or_eq_false_iff, Bool.and_eq_false_iff, decide_eq_false_iff_not,
      beq_eq_false_iff_ne, ne_eq]
    omega
  -- A sign has a code outside the ranges, and so has the mark.
  · rintro rfl
    simp at ranges
  · rintro rfl
    simp at ranges

/-- A token that spells a byte is read as that byte. -/
theorem tokenByte_of_spells {byte : UInt8} {token : List Char} (spells : SpellsByte byte token) :
    tokenByte token = byte := by
  obtain ⟨high, low, highDigit, lowDigit, shape⟩ := spells
  have bounded := byte.toNat_lt
  -- A token without a mark is left as it is, as its second character is a digit.
  have noMark : unmarked [high, low] = [high, low] := by
    have other := (digit_solid lowDigit).2.2
    unfold unmarked
    split
    -- A mark would have the letter in the second place.
    · simp_all
    · rfl
  have bare : unmarked token = [high, low] := by
    -- With a mark in front, taking it off leaves the two digits.
    rcases shape with rfl | rfl
    · exact noMark
    · rw [unmarked, noMark]
  -- The high digit counts sixteen times, which gives back the byte.
  have digits : hexNumber? [high, low] = some byte.toNat := by
    simp only [hexNumber?, List.isEmpty_cons, Bool.false_eq_true, if_false, List.foldl_cons,
      List.foldl_nil, highDigit, lowDigit, Option.bind_eq_bind, Option.bind_some, Option.pure_def,
      Option.some.injEq]
    omega
  have noSign := (digit_solid highDigit).2.1
  rw [tokenByte, bare]
  -- The first digit is no sign, so both digits count.
  split
  next number found =>
    split at found
    next rest signed => exact absurd (List.cons.inj signed).1 noSign
    next =>
      obtain rfl : byte.toNat = number := Option.some.inj (digits.symm.trans found)
      rw [if_pos (by omega), UInt8.ofNat_toNat]
  -- The number was found, so the case without one does not arise.
  next missing =>
    split at missing
    next rest signed => exact absurd (List.cons.inj signed).1 noSign
    next => cases digits.symm.trans missing

/-- A token that spells a byte is a word by itself. -/
theorem spellsByte_solid {byte : UInt8} {token : List Char} (spells : SpellsByte byte token) :
    token ≠ [] ∧ ∀ char ∈ token, Text.isBlank char = false := by
  obtain ⟨high, low, highDigit, lowDigit, shape⟩ := spells
  have highSolid := (digit_solid highDigit).1
  have lowSolid := (digit_solid lowDigit).1
  -- The digits are solid, and so are the zero and the letter of a mark.
  rcases shape with rfl | rfl
  · exact ⟨by simp, by simp [highSolid, lowSolid]⟩
  · refine ⟨by simp, ?_⟩
    simp only [List.mem_cons, List.not_mem_nil, or_false, forall_eq_or_imp, forall_eq]
    exact ⟨by decide, by decide, highSolid, lowSolid⟩

/-- A text that spells bytes is read as a success that carries them. -/
theorem parseOutput_of_spells {bytes : Bytes} {text : List Char} (spells : Spells bytes text) :
    parseOutput text = 0x00 :: bytes := by
  -- Each token is a word by itself and is read as its byte.
  induction spells with
  | blanks blank => rw [parseOutput, Text.words_only_blanks blank, List.map_nil]
  | token blank spells bounded onward ih =>
    obtain ⟨nonempty, solid⟩ := spellsByte_solid spells
    rw [parseOutput, List.append_assoc, Text.words_blanks blank,
      Text.words_token nonempty solid bounded, List.map_cons, tokenByte_of_spells spells]
    obtain ⟨_, same⟩ := List.cons.inj ih
    rw [same]

/-- Text of one-byte characters, as it travels. -/
def asciiBytes (text : List Char) : Bytes :=
  text.map fun char => UInt8.ofNat char.toNat

/-- Text of one-byte characters arrives as it was sent. -/
theorem decodeLossy_asciiBytes {text : List Char} (plain : ∀ char ∈ text, char.toNat < 128) :
    Utf8.decodeLossy (asciiBytes text) = text := by
  -- A byte below 128 is a character by itself and takes no byte after it.
  induction text with
  | nil => simp [asciiBytes, Utf8.decodeLossy]
  | cons char rest ih =>
    have small := plain char (by simp)
    -- The code fits one byte, so the byte has the same number.
    have code : (UInt8.ofNat char.toNat).toNat = char.toNat :=
      UInt8.toNat_ofNat_of_lt' (show char.toNat < 256 by omega)
    have alone : Utf8.front (UInt8.ofNat char.toNat) (asciiBytes rest) = (some char, 0) := by
      simp [Utf8.front, Utf8.lead?, code, small, Utf8.follow]
    have onward := ih fun other member => plain other (List.mem_cons_of_mem _ member)
    rw [asciiBytes, List.map_cons, Utf8.decodeLossy]
    -- Decoding takes the front of the text and goes on behind it.
    change (Utf8.front (UInt8.ofNat char.toNat) (asciiBytes rest)).1.getD '\uFFFD' ::
      Utf8.decodeLossy ((asciiBytes rest).drop
        (Utf8.front (UInt8.ofNat char.toNat) (asciiBytes rest)).2) = char :: rest
    rw [alone, List.drop_zero, onward]
    rfl

/-- Output prints a payload: it is plain text that spells the bytes. -/
def Prints (payload output : Bytes) : Prop :=
  ∃ text, (∀ char ∈ text, char.toNat < 128) ∧ output = asciiBytes text ∧ Spells payload text

/-- A payload that is printed is read back behind a completion code of zero. -/
theorem parseOutput_of_prints {payload output : Bytes} (prints : Prints payload output) :
    parseOutput (Utf8.decodeLossy output) = 0x00 :: payload := by
  obtain ⟨text, plain, rfl, spells⟩ := prints
  rw [decodeLossy_asciiBytes plain, parseOutput_of_spells spells]

/-- Bytes in two digits each, with a blank in front of each. -/
def printed (bytes : Bytes) : List Char :=
  bytes.flatMap fun byte => ' ' :: Hex.byteChars byte

/-- A digit is plain text and has its value. -/
theorem digit_plain {value : Nat} (small : value < 16) :
    Hex.value? (Hex.digit value) = some value ∧ (Hex.digit value).toNat < 128 := by
  -- There are sixteen values only, each checked by computing.
  have each : ∀ value < 16,
      Hex.value? (Hex.digit value) = some value ∧ (Hex.digit value).toNat < 128 := by decide
  exact each value small

/-- The two digits of a byte spell it. -/
theorem spellsByte_byteChars (byte : UInt8) : SpellsByte byte (Hex.byteChars byte) := by
  have bounded := byte.toNat_lt
  exact ⟨_, _, (digit_plain (by omega)).1, (digit_plain (by omega)).1, .inl rfl⟩

/-- Printed bytes are spelled. -/
theorem spells_printed (bytes : Bytes) : Spells bytes (printed bytes) := by
  -- Each byte is a blank and a token, and the text behind it begins with a blank or ends.
  induction bytes with
  | nil => exact .blanks (fun _ member => nomatch member)
  | cons byte rest ih =>
    have bounded : Text.Bounded (printed rest) := by
      intro char first
      cases rest with
      | nil => cases first
      | cons next others =>
        obtain rfl : ' ' = char := Option.some.inj first
        decide
    have blank : ∀ char ∈ [' '], Text.isBlank char = true := by
      intro char member
      rw [List.mem_singleton.mp member]
      decide
    exact .token blank (spellsByte_byteChars byte) bounded ih

/-- Bytes are printed by their digits. -/
theorem prints_printed (bytes : Bytes) : Prints bytes (asciiBytes (printed bytes)) := by
  refine ⟨printed bytes, fun char member => ?_, rfl, spells_printed bytes⟩
  obtain ⟨byte, _, inside⟩ := List.mem_flatMap.mp member
  have bounded := byte.toNat_lt
  -- Every character is the blank in front or one of two digits.
  simp only [Hex.byteChars, List.mem_cons, List.not_mem_nil, or_false] at inside
  rcases inside with rfl | rfl | rfl
  · decide
  · exact (digit_plain (by omega)).2
  · exact (digit_plain (by omega)).2

end Tool

end BmcTelemetry
