import BmcTelemetry.Proofs.Inventory.Product
import BmcTelemetry.Proofs.Text.Blank
import Mathlib.Data.List.Basic

/-!
Binary-coded decimals: which texts survive in a field, one character in each byte.

The digit 0 is the byte that marks the end of every field. A text reads back as far as its first
one, so as a whole exactly when it has none.
-/

namespace BmcTelemetry.Inventory.Field

/-- The byte whose value is the place of a character in the alphabet. -/
def bcdByte (char : Char) : UInt8 :=
  UInt8.ofNat (bcdAlphabet.idxOf char)

/-- Each character of the alphabet is read from its own byte, and only the digit 0 marks an end. -/
theorem bcdByte_spec : ∀ char ∈ bcdAlphabet,
    bcdAlphabet[(bcdByte char).toNat % 16]?.getD ' ' = char ∧
      (bcdByte char != 0x00 && bcdByte char != 0xFF) = (char != '0') := by
  -- There are sixteen of them.
  rw [← List.forall_iff_forall_mem]
  decide

/-- The content of a field ends before the first digit 0. -/
theorem content_bcd {chars : List Char} (spelled : ∀ char ∈ chars, char ∈ bcdAlphabet) :
    content (chars.map bcdByte) = (chars.takeWhile (· != '0')).map bcdByte := by
  -- A byte ends the content exactly where its character is a digit 0.
  induction chars with
  | nil => rfl
  | cons char rest ih =>
    have mark := (bcdByte_spec char (spelled char List.mem_cons_self)).2
    have others := ih fun other member => spelled other (List.mem_cons_of_mem _ member)
    unfold content at others ⊢
    rw [List.map_cons, List.takeWhile_cons, List.takeWhile_cons, mark, others]
    split <;> rfl

/-- Bytes of the alphabet decode to their characters. -/
theorem decodeBcd_bytes {chars : List Char} (spelled : ∀ char ∈ chars, char ∈ bcdAlphabet) :
    decodeBcd (chars.map bcdByte) = chars := by
  -- The characters are decoded one by one, each from its own byte.
  rw [decodeBcd, List.map_map]
  refine (List.map_congr_left fun char member => ?_).trans (List.map_id chars)
  exact (bcdByte_spec char (spelled char member)).1

/--
A field of binary-coded decimals holds its text up to the first digit 0.

It reads back as a whole exactly when there is no such digit in it.
-/
theorem bcd_until_zero {text : String} (spelled : ∀ char ∈ text.toList, char ∈ bcdAlphabet)
    (short : text.length ≤ 63) (rest : Bytes) :
    let field := (0x40 ||| UInt8.ofNat text.length) :: (text.toList.map bcdByte ++ rest)
    decode field = String.ofList (Text.trim (text.toList.takeWhile (· != '0'))) ∧
      (decode field = trimmed text ↔ '0' ∉ text.toList) := by
  intro field
  -- A character takes a byte, so that the field declares the length of the text.
  have length : (text.toList.map bcdByte).length = text.length := by
    rw [List.length_map, String.length_toList]
  have decoded : decode field
      = String.ofList (Text.trim (text.toList.takeWhile (· != '0'))) := by
    -- What comes before the first digit 0 is spelled by the alphabet too.
    have front : ∀ char ∈ text.toList.takeWhile (· != '0'), char ∈ bcdAlphabet := fun char member =>
      spelled char ((List.takeWhile_prefix _).subset member)
    have read := decode_ofBytes .bcdPlus (length.le.trans short) rest
    rw [content_bcd spelled, spell, decodeBcd_bytes front, ofBytes, length] at read
    exact read
  refine ⟨decoded, ?_⟩
  rw [decoded]
  -- The text in front of the digit is compared with the whole text, both without blanks around
  -- them.
  constructor
  · intro same member
    -- The digit is no white space, so it is in the text that is trimmed, but not in front of itself.
    have kept := Text.mem_trim_of_solid (by decide) member
    rw [← String.ofList_inj.mp same] at kept
    simpa using List.mem_takeWhile_imp (Text.mem_of_mem_trim kept)
  -- Without the digit, the content is not cut at all.
  · intro absent
    have whole : text.toList.takeWhile (· != '0') = text.toList := by
      rw [List.takeWhile_eq_self_iff]
      intro char member
      have other : char ≠ '0' := fun same => absent (same ▸ member)
      simpa using other
    rw [whole, trimmed]

/-- A part number without the digit 0 survives, blanks and dots included. -/
theorem bcd_until_zero_partNumber :
    (∀ char ∈ " 12-34.5 ".toList, char ∈ bcdAlphabet) ∧ " 12-34.5 ".length ≤ 63 ∧
      decode [0x49, 0x0a, 0x01, 0x02, 0x0b, 0x03, 0x04, 0x0c, 0x05, 0x0a, 0xc1] = "12-34.5" := by
  -- Each character is held against the alphabet, the blanks included.
  have spelled : ∀ char ∈ " 12-34.5 ".toList, char ∈ bcdAlphabet :=
    List.forall_iff_forall_mem.mp (by decide)
  have short : " 12-34.5 ".length ≤ 63 := by decide
  have read := (bcd_until_zero spelled short [0xc1]).2.mpr (by decide)
  exact ⟨spelled, short, read.trans (by decide)⟩

/-- A digit 0 is lost, and all that follows it. -/
theorem bcd_zero_lost :
    (∀ char ∈ "105".toList, char ∈ bcdAlphabet) ∧ "105".length ≤ 63 ∧
      decode ((0x40 ||| UInt8.ofNat "105".length) :: "105".toList.map bcdByte) = "1" ∧
      trimmed "105" = "105" :=
  ⟨List.forall_iff_forall_mem.mp (by decide), by decide, by decide, by decide⟩

end BmcTelemetry.Inventory.Field
