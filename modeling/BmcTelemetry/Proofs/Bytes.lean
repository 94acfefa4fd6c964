import BmcTelemetry.Bytes

/-! Words and slices of byte strings, and byte strings that agree from an offset on. -/

namespace BmcTelemetry.Bytes

/-- A small number is held by a byte without loss. -/
theorem toNat_byte {number : Nat} (small : number ≤ 255) :
    (UInt8.ofNat number).toNat = number :=
  -- A byte counts modulo 256, which such a number does not reach.
  UInt8.toNat_ofNat_of_lt' (show number < 256 by omega)

/-- A word takes two bytes. -/
@[simp] theorem length_ofWord (word : UInt16) : (ofWord word).length = 2 := rfl

/-- A word written at the front reads back. -/
@[simp] theorem wordAt_ofWord (word : UInt16) (rest : Bytes) :
    (ofWord word ++ rest).wordAt 0 = word := by
  -- The low byte and the high byte are the remainder and the quotient by 256.
  have bounded := word.toNat_lt
  have low : (UInt8.ofNat (word.toNat % 256)).toNat = word.toNat % 256 := toNat_byte (by omega)
  have high : (UInt8.ofNat (word.toNat / 256)).toNat = word.toNat / 256 := toNat_byte (by omega)
  simp only [wordAt, word?, ofWord, List.cons_append, List.nil_append, List.getElem?_cons_zero,
    Nat.zero_add, List.getElem?_cons_succ, Option.getD_some, low, high, Nat.mod_add_div,
    UInt16.ofNat_toNat]

/-- The first two bytes of some data are those of the word in front. -/
theorem ofWord_wordAt {data : Bytes} (enough : 2 ≤ data.length) :
    ofWord (data.wordAt 0) = data.take 2 := by
  -- Data that is long enough has two bytes in front, and nothing else of it matters.
  match data, enough with
  | low :: high :: rest, _ =>
    -- Two bytes make a number below 65536, so that the word does not wrap around.
    have lowByte := low.toNat_lt
    have highByte := high.toNat_lt
    have whole : (UInt16.ofNat (low.toNat + 256 * high.toNat)).toNat
        = low.toNat + 256 * high.toNat := UInt16.toNat_ofNat_of_lt' (by
      change _ < 65536
      omega)
    -- The quotient and the remainder by 256 are the two bytes again.
    have first : (low.toNat + 256 * high.toNat) % 256 = low.toNat := by omega
    have second : (low.toNat + 256 * high.toNat) / 256 = high.toNat := by omega
    -- It remains to take the number of the word apart again.
    change ofWord (UInt16.ofNat (low.toNat + 256 * high.toNat)) = [low, high]
    rw [ofWord, whole, first, second, UInt8.ofNat_toNat, UInt8.ofNat_toNat]

/-- A slice inside the data has as many bytes as asked for. -/
theorem length_slice {data : Bytes} {start count : Nat} (inside : start + count ≤ data.length) :
    (data.slice start count).length = count := by
  -- What is left behind the start is long enough to take so many bytes from.
  simp only [slice, List.length_take, List.length_drop]
  omega

/-- A byte that is there is the byte at its place. -/
theorem getElem?_eq_byteAt {data : Bytes} {place : Nat} (inside : place < data.length) :
    data[place]? = some (data.byteAt place) := by
  rw [byteAt, List.getElem?_eq_getElem inside, Option.getD_some]

/-- Byte strings of one length with the same byte at each place are the same. -/
theorem ext_byteAt {data other : Bytes} (length : data.length = other.length)
    (same : ∀ place, data.byteAt place = other.byteAt place) : data = other := by
  -- Reading positions as optional bytes compares the lengths and the bytes at once.
  apply List.ext_getElem?
  intro place
  rcases Nat.lt_or_ge place data.length with inside | past
  -- Inside, a byte is there on both sides, and it is the same one.
  · rw [getElem?_eq_byteAt inside, getElem?_eq_byteAt (length ▸ inside), same]
  -- Past the end there is nothing on either side, as the lengths are the same.
  · rw [List.getElem?_eq_none past, List.getElem?_eq_none (length ▸ past)]

/-- Zeros at the end change no byte, since there are only zeros past the end. -/
theorem byteAt_append_zeros (data : Bytes) (count place : Nat) :
    (data ++ List.replicate count 0).byteAt place = data.byteAt place := by
  rcases Nat.lt_or_ge place data.length with inside | past
  -- Inside the data, the zeros are out of reach.
  · rw [byteAt, List.getElem?_append_left inside, byteAt]
  -- Past the data, a position holds one of the zeros, or nothing, which counts as zero too.
  · rw [byteAt, List.getElem?_append_right past, List.getElem?_replicate, byteAt,
      List.getElem?_eq_none past]
    split <;> rfl

/-- A byte of a slice is one of the data. -/
theorem byteAt_slice (data : Bytes) {start count index : Nat} (inside : index < count) :
    (data.slice start count).byteAt index = data.byteAt (start + index) := by
  -- A position inside the slice is inside what the slice takes, and only the start has to be added.
  rw [byteAt, slice, List.getElem?_take_of_lt inside, List.getElem?_drop, byteAt]

/-- What follows a word in front. -/
theorem slice_ofWord_append (word : UInt16) (rest : Bytes) (count : Nat) :
    (ofWord word ++ rest).slice 2 count = rest.take count := rfl

/-- Two slices in a row are one slice. -/
theorem slice_append_slice (data : Bytes) (start first second : Nat) :
    data.slice start first ++ data.slice (start + first) second
      = data.slice start (first + second) := by
  -- Taking two lengths at once is taking the first and then the second from what the first leaves.
  simp only [slice, ← List.drop_drop, List.take_add]

/-- A slice of a slice is a slice of the data. -/
theorem slice_slice (data : Bytes) {start length place count : Nat}
    (inside : place + count ≤ length) :
    (data.slice start length).slice place count = data.slice (start + place) count := by
  -- The inner slice ends past the outer one, so only the outer start and count matter.
  rw [slice, slice, slice, List.drop_take, List.take_take, List.drop_drop,
    Nat.min_eq_left (by omega)]

/-- Writing over grows the data only as far as the patch reaches past its end. -/
@[simp] theorem length_patch (data : Bytes) (offset : Nat) (bytes : Bytes) :
    (data.patch offset bytes).length = max data.length (offset + bytes.length) := by
  -- What stays of the data in front, the zeros, the patch and what stays behind it add up.
  simp only [patch, List.length_append, List.length_take, List.length_drop, List.length_replicate]
  omega

/-- Writing over bytes that are there leaves those before and after them. -/
theorem patch_of_inside {data bytes : Bytes} {offset : Nat}
    (inside : offset + bytes.length ≤ data.length) :
    data.patch offset bytes = data.take offset ++ bytes ++ data.drop (offset + bytes.length) := by
  -- Nothing has to be grown first.
  rw [patch, Nat.sub_eq_zero_of_le inside, List.replicate_zero, List.append_nil]

/-- Where bytes were written over, they are found. -/
theorem getElem?_patch_inside {data bytes : Bytes} {offset place : Nat}
    (inside : offset + bytes.length ≤ data.length) (from_offset : offset ≤ place)
    (before_end : place < offset + bytes.length) :
    (data.patch offset bytes)[place]? = bytes[place - offset]? := by
  -- The bytes in front of the patch are as many as its offset says.
  have front : (data.take offset).length = offset := List.length_take_of_le (by omega)
  rw [patch_of_inside inside, List.append_assoc, List.getElem?_append_right (by omega), front,
    List.getElem?_append_left (by omega)]

/-- Away from where bytes were written over, the data is found. -/
theorem getElem?_patch_outside {data bytes : Bytes} {offset place : Nat}
    (inside : offset + bytes.length ≤ data.length)
    (outside : ¬ (offset ≤ place ∧ place < offset + bytes.length)) :
    (data.patch offset bytes)[place]? = data[place]? := by
  have front : (data.take offset).length = offset := List.length_take_of_le (by omega)
  rw [patch_of_inside inside, List.append_assoc]
  -- A position that is missed is in front of the patch or behind it.
  by_cases before : place < offset
  · rw [List.getElem?_append_left (by omega), List.getElem?_take_of_lt before]
  -- Behind the patch, a position counts from where the patch ends, which is where the data goes on.
  · rw [List.getElem?_append_right (by omega), front, List.getElem?_append_right (by omega),
      List.getElem?_drop]
    congr 1
    omega

/-- Writing over bytes comes down to writing over bytes that are there, with zeros added. -/
theorem exists_grown (data : Bytes) (offset : Nat) (bytes : Bytes) :
    ∃ grown : Bytes, offset + bytes.length ≤ grown.length ∧
      data.patch offset bytes = grown.patch offset bytes ∧
        ∀ place, grown.byteAt place = data.byteAt place := by
  -- The zeros that writing would add are added first, so that there is room for the patch.
  let grown := data ++ List.replicate (offset + bytes.length - data.length) (0 : UInt8)
  have room : offset + bytes.length ≤ grown.length := by
    rw [List.length_append, List.length_replicate]
    omega
  -- With room made, writing adds nothing more, and zeros at the end are no bytes of their own.
  exact ⟨grown, room, (patch_of_inside room).symm, byteAt_append_zeros data _⟩

/-- Where bytes were written over, they are found; elsewhere the data is, followed by zeros. -/
theorem byteAt_patch (data : Bytes) (offset : Nat) (bytes : Bytes) (place : Nat) :
    (data.patch offset bytes).byteAt place =
      if offset ≤ place ∧ place < offset + bytes.length then bytes.byteAt (place - offset)
      else data.byteAt place := by
  -- Data with room for the patch holds the same bytes, so the two lemmas for such data apply.
  obtain ⟨grown, room, same, unchanged⟩ := exists_grown data offset bytes
  rw [same, byteAt]
  split
  · next covered => rw [getElem?_patch_inside room covered.1 covered.2, byteAt]
  · next missed => rw [getElem?_patch_outside room missed, ← byteAt, unchanged]

/-- Writing the next bytes of the data over other bytes extends what the two have in common. -/
theorem take_patch {data buffer : Bytes} {place count : Nat}
    (common : buffer.take place = data.take place) (inside : place + count ≤ data.length)
    (room : data.length ≤ buffer.length) :
    (buffer.patch place (data.slice place count)).take (place + count)
      = data.take (place + count) := by
  have length : (data.slice place count).length = count := length_slice inside
  -- What the two have in common and the slice written behind it make up the longer prefix.
  have front : (buffer.take place ++ data.slice place count).length = place + count := by
    rw [List.length_append, length, List.length_take]
    omega
  -- There is room for all of the bytes, so that none is added at the end.
  simp only [patch, length, show place + count - buffer.length = 0 by omega, List.replicate_zero,
    List.append_nil]
  rw [List.take_append_of_le_length (by omega), List.take_of_length_le (by omega), common, slice,
    ← List.take_add]

/-- The bytes agree with the data from an offset on, as far as the data goes. -/
def Agrees (data : Bytes) (offset : Nat) (bytes : Bytes) : Prop :=
  ∀ index byte, index < bytes.length → data[offset + index]? = some byte →
    bytes[index]? = some byte

/-- No bytes agree with any data. -/
theorem agrees_nil (data : Bytes) (offset : Nat) : data.Agrees offset [] := by
  intro index byte inside
  simp at inside

/-- The first bytes of the data agree with it. -/
theorem agrees_take (data : Bytes) (count : Nat) : data.Agrees 0 (data.take count) := by
  -- A position among the first bytes is one where both have the byte.
  intro index byte inside found
  rw [List.length_take] at inside
  rw [Nat.zero_add] at found
  rw [List.getElem?_take_of_lt (by omega), found]

/-- Bytes that agree, followed by bytes that agree where those end, agree. -/
theorem Agrees.append {data first second : Bytes} {offset : Nat}
    (left : data.Agrees offset first) (right : data.Agrees (offset + first.length) second) :
    data.Agrees offset (first ++ second) := by
  intro index byte inside found
  rw [List.length_append] at inside
  -- A position is one of the first bytes or one of those behind them.
  rcases Nat.lt_or_ge index first.length with before | past
  · rw [List.getElem?_append_left before]
    exact left index byte before found
  · rw [List.getElem?_append_right past]
    -- The second bytes agree from where the first end, so their positions are shifted by as much.
    refine right (index - first.length) byte (by omega) ?_
    rwa [show offset + first.length + (index - first.length) = offset + index by omega]

/-- Bytes that agree with the start of the data have its bytes. -/
theorem Agrees.byteAt_eq {data bytes : Bytes} (agree : data.Agrees 0 bytes) {index : Nat}
    (reached : index < bytes.length) (inside : index < data.length) :
    bytes.byteAt index = data.byteAt index := by
  -- The position is reached on both sides, and agreement says that the bytes are the same.
  have found := agree index data[index] reached (by simp [inside])
  simp [byteAt, found, inside]

/-- Bytes that agree with the start of the data have its first word. -/
theorem Agrees.wordAt_eq {data bytes : Bytes} (agree : data.Agrees 0 bytes)
    (reached : 2 ≤ bytes.length) (inside : 2 ≤ data.length) :
    bytes.wordAt 0 = data.wordAt 0 := by
  -- Both bytes of the word are reached, so both are the same.
  have low := agree 0 data[0] (by omega) (by simp)
  have high := agree 1 data[1] (by omega) (by simp)
  simp [wordAt, word?, low, high, show 0 < data.length by omega, show 1 < data.length by omega]

end BmcTelemetry.Bytes
