import BmcTelemetry.Inventory.ProductArea
import Mathlib.Data.List.TakeWhile

/-!
Fields as they stand in an area: what a field is decoded from, and where it is found.

A field is decoded from its own bytes, and found through the bytes of the fields in front of it.
What follows it in the area has no say.
-/

namespace BmcTelemetry.Inventory

namespace Field

/-- The top two bits of a type/length byte that name an encoding. -/
def Encoding.mark : Encoding → UInt8
  | .binary => 0x00
  | .bcdPlus => 0x40
  | .sixBit => 0x80
  | .text => 0xC0

/-- A field: one byte for its encoding and its length, and the bytes of its content. -/
def ofBytes (encoding : Encoding) (bytes : Bytes) : Bytes :=
  (encoding.mark ||| UInt8.ofNat bytes.length) :: bytes

/-- An encoding and every length below sixty-four share a byte. -/
theorem typeLength_mark (named : Encoding) {length : Nat} (short : length ≤ 63) :
    encoding (named.mark ||| UInt8.ofNat length) = named ∧
      declared (named.mark ||| UInt8.ofNat length) = length := by
  -- There are four encodings with as many lengths as six bits can tell.
  have each : ∀ length : Fin 64, encoding (named.mark ||| UInt8.ofNat length.val) = named ∧
      declared (named.mark ||| UInt8.ofNat length.val) = length.val := by
    cases named <;> decide
  exact each ⟨length, by omega⟩

/-- A field is spelled by its content, whatever follows it. -/
theorem decode_ofBytes (named : Encoding) {bytes : Bytes} (short : bytes.length ≤ 63)
    (rest : Bytes) :
    decode (ofBytes named bytes ++ rest)
      = String.ofList (Text.trim (spell named (content bytes))) := by
  -- The first byte tells the encoding and how many bytes belong to the content.
  obtain ⟨typed, length⟩ := typeLength_mark named short
  -- As many bytes are there, whatever follows them.
  have enough : ¬ (bytes ++ rest).length < bytes.length := by
    rw [List.length_append]
    omega
  rw [ofBytes, List.cons_append, decode, typed, length, if_neg enough, List.take_left]

/-- A content without the bytes that mark an end is not cut short. -/
theorem content_eq_self {bytes : Bytes} (unmarked : ∀ byte ∈ bytes, byte ≠ 0x00 ∧ byte ≠ 0xFF) :
    content bytes = bytes := by
  -- The content reaches to the first mark, and there is none.
  rw [content, List.takeWhile_eq_self_iff]
  intro byte member
  simpa using unmarked byte member

/-- Data of equal length that begin with the same field decode to the same text. -/
theorem decode_congr {left right : Bytes} {typeLength : UInt8}
    (sized : left.length = right.length) (first : left[0]? = some typeLength)
    (common : left.take (declared typeLength + 1) = right.take (declared typeLength + 1)) :
    decode left = decode right := by
  -- Both begin with the same byte, so that they declare the same encoding and length.
  cases left with
  | nil => simp at first
  | cons byte leftRest =>
    cases right with
    | nil => simp at sized
    | cons other rightRest =>
      obtain rfl : byte = typeLength := by simpa using first
      rw [List.take_succ_cons, List.take_succ_cons] at common
      obtain ⟨rfl, content⟩ := List.cons.inj common
      -- Whether the declared bytes are there depends on the length alone.
      have enough : leftRest.length = rightRest.length := by simpa using sized
      rw [decode, decode, enough, content]

end Field

namespace ProductArea

/-- No field starts before the place from which fields are looked for. -/
theorem le_of_mem_fieldStarts {area : Bytes} {count place start : Nat}
    (member : start ∈ fieldStarts area count place) : place ≤ start := by
  -- Each field is found behind the one before, where looking goes on.
  induction count generalizing place with
  | zero => simp [fieldStarts] at member
  | succ count ih =>
    unfold fieldStarts at member
    split at member
    · simp at member
    · rcases List.mem_cons.mp member with same | later
      · omega
      · have after := ih later
        omega

/-- Areas that agree up to the start of a field agree on where it starts. -/
theorem fieldStarts_congr {left right : Bytes} {limit : Nat}
    (common : left.take limit = right.take limit) {count place index start : Nat}
    (found : (fieldStarts left count place)[index]? = some start) (inside : start < limit) :
    (fieldStarts right count place)[index]? = some start := by
  -- Each field in front starts earlier, so its type/length byte is one of those in common.
  induction count generalizing place index with
  | zero => simp [fieldStarts] at found
  | succ count ih =>
    -- The field lies where the search starts or behind it, so that its first byte is in common.
    have before := le_of_mem_fieldStarts (List.mem_of_getElem? found)
    have same : right[place]? = left[place]? := by
      rw [← List.getElem?_take_of_lt (show place < limit by omega), ← common,
        List.getElem?_take_of_lt (by omega)]
    unfold fieldStarts at found ⊢
    rw [same]
    split at found
    · simp at found
    -- The search is for this field or for one behind it.
    · cases index with
      | zero => exact found
      | succ index => exact ih found

/-- A field's type/length byte and all of its declared bytes lie before a limit. -/
def EndsBy (area : Bytes) (index limit : Nat) : Prop :=
  ∃ place typeLength, (fieldStarts area 5 3)[index]? = some place ∧
    area[place]? = some typeLength ∧ place + Field.declared typeLength + 1 ≤ limit

/-- Areas of equal length decode every field alike that ends within what they have in common. -/
theorem field?_congr {left right : Bytes} {limit index : Nat}
    (sized : left.length = right.length) (common : left.take limit = right.take limit)
    (ends : EndsBy left index limit) :
    ∃ text, field? left index = some text ∧ field? right index = some text := by
  -- The field's place and length are told by the left area, and shared by the right one.
  obtain ⟨place, typeLength, started, typed, reached⟩ := ends
  have found := fieldStarts_congr common started (by omega)
  -- Behind the same place both areas go on with the bytes of the field.
  have first : (left.drop place)[0]? = some typeLength := by
    rwa [List.getElem?_drop, Nat.add_zero]
  have same : Field.decode (left.drop place) = Field.decode (right.drop place) := by
    refine Field.decode_congr ?_ first ?_
    -- The areas are as long behind the place as well.
    · rw [List.length_drop, List.length_drop, sized]
    -- The bytes of the field are the first ones behind the place, and they end within the limit.
    · have cut := congrArg (List.take (Field.declared typeLength + 1))
        (congrArg (List.drop place) common)
      rwa [List.drop_take, List.drop_take, List.take_take, List.take_take,
        Nat.min_eq_left (by omega)] at cut
  refine ⟨Field.decode (left.drop place), ?_, ?_⟩
  -- The field is found at the place in both areas, and decoded alike.
  · rw [field?, started, Option.map_some]
  · rw [field?, found, Option.map_some, same]

end ProductArea

end BmcTelemetry.Inventory
