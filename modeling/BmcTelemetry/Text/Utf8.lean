import BmcTelemetry.Bytes

/-! Reading bytes as UTF-8, with or without tolerance for ill-formed sequences. -/

namespace BmcTelemetry.Utf8

/-- What the first byte of a sequence says about the rest of it. -/
structure Lead where
  /-- The bits that the first byte gives to the character. -/
  bits : Nat
  /-- The least and the greatest value of each byte that has to follow. -/
  ranges : List (Nat × Nat)

/-- The promise of a first byte, absent for a byte that begins no sequence. -/
def lead? (first : UInt8) : Option Lead :=
  let code := first.toNat
  let plain := (0x80, 0xBF)
  if code < 0x80 then some ⟨code, []⟩
  -- Lower first bytes would spell a one-byte character in two.
  else if code < 0xC2 then none
  else if code < 0xE0 then some ⟨code - 0xC0, [plain]⟩
  -- The narrowed ranges shut out overlong spellings and surrogates.
  else if code = 0xE0 then some ⟨0, [(0xA0, 0xBF), plain]⟩
  else if code = 0xED then some ⟨0x0D, [(0x80, 0x9F), plain]⟩
  else if code < 0xF0 then some ⟨code - 0xE0, [plain, plain]⟩
  -- The narrowed ranges shut out overlong spellings and values past the last character.
  else if code = 0xF0 then some ⟨0, [(0x90, 0xBF), plain, plain]⟩
  else if code < 0xF4 then some ⟨code - 0xF0, [plain, plain, plain]⟩
  else if code = 0xF4 then some ⟨4, [(0x80, 0x8F), plain, plain]⟩
  else none

/-- Reads the bytes that have to follow: the character, if complete, and how many bytes fit. -/
def follow : List (Nat × Nat) → Nat → Bytes → Option Char × Nat
  | [], bits, _ => (some (Char.ofNat bits), 0)
  -- The data ends inside the sequence.
  | _ :: _, _, [] => (none, 0)
  | (least, greatest) :: ranges, bits, byte :: rest =>
    if least ≤ byte.toNat ∧ byte.toNat ≤ greatest then
      let (found, count) := follow ranges (bits * 64 + byte.toNat % 64) rest
      (found, count + 1)
    else (none, 0)

/-- The character that a first byte begins, if any, and how many later bytes belong to it. -/
def front (first : UInt8) (rest : Bytes) : Option Char × Nat :=
  match lead? first with
  | some lead => follow lead.ranges lead.bits rest
  | none => (none, 0)

/-- Decodes all bytes, with one replacement character for each ill-formed sequence. -/
def decodeLossy : Bytes → List Char
  | [] => []
  | first :: rest =>
    (front first rest).1.getD '\uFFFD' :: decodeLossy (rest.drop (front first rest).2)
termination_by data => data.length
decreasing_by simp only [List.length_drop, List.length_cons]; omega

/-- Decodes all bytes, or nothing when any sequence is ill-formed. -/
def decode? : Bytes → Option (List Char)
  | [] => some []
  | first :: rest =>
    match (front first rest).1 with
    | some char => (decode? (rest.drop (front first rest).2)).map (char :: ·)
    | none => none
termination_by data => data.length
decreasing_by simp only [List.length_drop, List.length_cons]; omega

end BmcTelemetry.Utf8
