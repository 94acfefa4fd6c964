import BmcTelemetry.Proofs.Bytes
import BmcTelemetry.Proofs.Metric.Catalog
import Mathlib.Data.List.Nodup
import Mathlib.Data.Nat.Digits.Defs

/-!
Parsing answers of any length: which names get a value, and which value each of them gets.

An answer that goes on further changes no value that it carried before.
-/

namespace BmcTelemetry

/-- How many bytes a value takes. -/
def Width.size : Width → Nat
  | .byte => 1
  | .word => 2

namespace Field

/-- The data reaches the last byte of the field. -/
def Within (field : Field) (data : Bytes) : Prop :=
  field.offset + field.width.size ≤ data.length

/-- The number that the bytes of the field make, the low byte first. -/
def number (field : Field) (data : Bytes) : Nat :=
  Nat.ofDigits 256 ((data.slice field.offset field.width.size).map UInt8.toNat)

variable {field : Field} {data longer : Bytes}

/-- A field that the data reaches is read as its number. -/
theorem exists_read? (within : field.Within data) :
    ∃ value : UInt16, field.read? data = some value ∧ value.toNat = field.number data := by
  -- A value is one byte or two, and in both cases they are inside the data.
  obtain ⟨name, offset, width, omissible⟩ := field
  cases width with
  | byte =>
    have here : offset < data.length := within
    refine ⟨data[offset].toUInt16, by simp [read?, here], ?_⟩
    -- The slice is the one byte, which spells itself.
    simp [number, Width.size, Bytes.slice, List.take_one, here]
  | word =>
    have there : offset + 1 < data.length := within
    have here : offset < data.length := by omega
    have low := data[offset].toNat_lt
    have high := data[offset + 1].toNat_lt
    refine ⟨UInt16.ofNat (data[offset].toNat + 256 * data[offset + 1].toNat), ?_, ?_⟩
    · simp [read?, Bytes.word?, here, there]
    · -- The slice has the two bytes of the word, which fit a word.
      have slice : data.slice offset 2 = [data[offset], data[offset + 1]] := by
        rw [Bytes.slice, List.drop_eq_getElem_cons here, List.drop_eq_getElem_cons there]
        rfl
      -- The bytes spell their number with the low byte first, as the word does.
      rw [number, Width.size, slice, UInt16.toNat_ofNat_of_lt' (by change _ < 65536; omega)]
      simp [Nat.ofDigits_cons]

/-- A field that the data does not reach is not read. -/
theorem read?_eq_none (beyond : ¬ field.Within data) : field.read? data = none := by
  -- The last byte of the field is past the end of the data.
  obtain ⟨name, offset, width, omissible⟩ := field
  cases width with
  | byte =>
    have past : data.length ≤ offset := Nat.not_lt.mp beyond
    simp [read?, past]
  | word =>
    have past : data.length ≤ offset + 1 := Nat.not_lt.mp beyond
    rw [read?, Bytes.word?, List.getElem?_eq_none past]
    -- Without its high byte there is no word, whether the low byte is there or not.
    cases data[offset]? <;> rfl

/-- Data that goes on further reaches the field too. -/
theorem Within.of_prefix (within : field.Within data) (continued : data <+: longer) :
    field.Within longer :=
  Nat.le_trans within continued.length_le

/-- Data that goes on further has the same number in the field. -/
theorem Within.number_eq (within : field.Within data) (continued : data <+: longer) :
    field.number longer = field.number data := by
  obtain ⟨rest, rfl⟩ := continued
  unfold Within at within
  -- The field lies inside the shorter data, which is in front of both.
  rw [number, number, Bytes.slice, Bytes.slice, List.drop_append_of_le_length (by omega),
    List.take_append_of_le_length (by rw [List.length_drop]; omega)]

end Field

namespace Format

/-- The field of a memory slot in a temperature answer. -/
def slotField (slot : Nat) : Field :=
  { name := "memory/dimm/" ++ toString slot, offset := 8 + slot, width := .byte, omissible := true }

/-- An answer leaves out the names of the memory slots whose bytes lie past its end. -/
def LeavesOut (format : Format) (response : Response) (name : String) : Prop :=
  format = .temperature ∧ response.valid = true ∧
    ∃ slot < memorySlots, name = "memory/dimm/" ++ toString slot ∧
      response.data.length ≤ 8 + slot

/-- No format declares a name twice. -/
theorem metrics_nodup (format : Format) : format.metrics.Nodup := by
  -- Names are compared as numbers, which is done format by format.
  apply Catalog.nodup_of_numbers
  cases format <;> decide +kernel

/-- A field is known by its name. -/
theorem field_of_name {format : Format} {field other : Field} (member : field ∈ format.fields)
    (listed : other ∈ format.fields) (same : field.name = other.name) : field = other :=
  List.inj_on_of_nodup_map format.metrics_nodup member listed same

/-- Other formats than that of temperatures have no field that may be left out. -/
theorem not_omissible {format : Format} (other : format ≠ .temperature) :
    ∀ field ∈ format.fields, field.omissible = false := by
  -- All other formats consist of fields that are always reported.
  cases format with
  | temperature => exact absurd rfl other
  | _ => decide

/-- Only memory slots may be left out. -/
theorem omissible_iff {format : Format} {field : Field} (member : field ∈ format.fields) :
    field.omissible = true ↔
      format = .temperature ∧ ∃ slot < memorySlots, field = slotField slot := by
  -- A temperature answer has sockets and slots, and no other format has any field of this kind.
  by_cases other : format = .temperature
  · subst other
    rw [fields, List.mem_append, List.mem_map, List.mem_map] at member
    rcases member with ⟨socket, _, rfl⟩ | ⟨slot, listed, rfl⟩
    -- A socket is always reported, which no slot is.
    · simp [Field.byte, slotField]
    · exact ⟨fun _ => ⟨rfl, slot, List.mem_range.mp listed, rfl⟩, fun _ => rfl⟩
  · simp [not_omissible other field member, other]

/-- The slots of memory are fields of a temperature answer. -/
theorem slotField_mem {slot : Nat} (populated : slot < memorySlots) :
    slotField slot ∈ temperature.fields := by
  -- The slots come behind the sockets.
  rw [fields, List.mem_append]
  exact .inr (List.mem_map.mpr ⟨slot, List.mem_range.mpr populated, rfl⟩)

/-- A field gives a value unless it may be left out and the data does not reach it. -/
theorem exists_contribution_iff {data : Bytes} {field : Field} :
    (∃ value, contribution data field = some (field.name, value)) ↔
      (field.omissible = true → field.Within data) := by
  by_cases within : field.Within data
  -- A field that is reached is read, and its value is the contribution.
  · obtain ⟨value, read, _⟩ := Field.exists_read? within
    simp [contribution, read, within]
  -- A field that is not reached is left out if it may be, and invalid if it may not.
  · cases kept : field.omissible <;> simp [contribution, Field.read?_eq_none within, kept, within]

/-- A field that the data reaches gives its number. -/
theorem contribution_within {data : Bytes} {field : Field} (within : field.Within data) :
    ∃ value : UInt16, contribution data field = some (field.name, value) ∧
      value.toNat = field.number data := by
  obtain ⟨value, read, same⟩ := Field.exists_read? within
  exact ⟨value, by rw [contribution, read], same⟩

section Answers

variable {format : Format} {response : Response}

/-- An answer that is flagged valid gives the values of its fields. -/
theorem parse_valid (valid : response.valid = true)
    (covered : format = .pmbus → regulatorPayload ≤ response.payload.length) :
    format.parse response = format.fields.filterMap (contribution response.data) := by
  -- The guard on regulators comes first, and the answer passes it.
  have enough : ¬ (format = .pmbus ∧ response.payload.length < regulatorPayload) :=
    fun short => Nat.not_lt.mpr (covered short.1) short.2
  rw [parse, if_neg enough, if_pos valid]

/-- An answer that is flagged invalid, or too short for regulators, gives all names one value. -/
theorem parse_otherwise (refused : ¬ (response.valid = true ∧
    (format = .pmbus → regulatorPayload ≤ response.payload.length))) :
    format.parse response = format.sentinels
      (if format = .pmbus ∧ response.payload.length < regulatorPayload then absentValue
        else invalidValue) := by
  rw [parse]
  -- The guard on regulators gives the one value, and the flag of the answer the other.
  split
  next => rfl
  next covered =>
    rw [if_neg]
    exact fun valid => refused
      ⟨valid, fun regulators => Nat.not_lt.mp fun short => covered ⟨regulators, short⟩⟩

/-- The names that get a value are those of the fields that give one. -/
theorem mem_names_valid (valid : response.valid = true)
    (covered : format = .pmbus → regulatorPayload ≤ response.payload.length) {name : String} :
    name ∈ (format.parse response).map Prod.fst ↔
      ∃ field ∈ format.fields, field.name = name ∧
        (field.omissible = true → field.Within response.data) := by
  rw [parse_valid valid covered, List.mem_map]
  constructor
  -- The name comes with a value, which one of the fields has contributed.
  · rintro ⟨⟨sub, value⟩, found, rfl⟩
    obtain ⟨field, member, given⟩ := List.mem_filterMap.mp found
    obtain rfl := contribution_name given
    exact ⟨field, member, rfl, exists_contribution_iff.mp ⟨value, given⟩⟩
  -- The field contributes some value, which comes with its name.
  · rintro ⟨field, member, rfl, reached⟩
    obtain ⟨value, given⟩ := exists_contribution_iff.mpr reached
    exact ⟨_, List.mem_filterMap.mpr ⟨field, member, given⟩, rfl⟩

/-- A field that may be left out is so exactly where the answer leaves out its name. -/
theorem leavesOut_iff (valid : response.valid = true) {field : Field}
    (member : field ∈ format.fields) :
    format.LeavesOut response field.name ↔
      ¬ (field.omissible = true → field.Within response.data) := by
  constructor
  -- The name is that of one slot only, so that the field is the slot past the end.
  · rintro ⟨rfl, _, slot, populated, named, past⟩ reached
    obtain rfl := field_of_name member (slotField_mem populated) named
    have within : 8 + slot + 1 ≤ response.data.length := reached rfl
    omega
  -- A field that may be left out is a slot, and the answer does not reach its byte.
  · intro missing
    simp only [Classical.not_imp] at missing
    obtain ⟨rfl, slot, populated, rfl⟩ := (omissible_iff member).mp missing.1
    exact ⟨rfl, valid, slot, populated, rfl, Nat.not_lt.mp missing.2⟩

/-- Every declared name gets a value, unless the answer leaves it out. -/
theorem mem_names_iff {name : String} :
    name ∈ (format.parse response).map Prod.fst ↔
      name ∈ format.metrics ∧ ¬ format.LeavesOut response name := by
  -- An answer that gives values is read field by field.
  by_cases gives : response.valid = true ∧
      (format = .pmbus → regulatorPayload ≤ response.payload.length)
  · obtain ⟨valid, covered⟩ := gives
    rw [mem_names_valid valid covered, metrics, List.mem_map]
    constructor
    -- A field that gives a value is not left out.
    · rintro ⟨field, member, rfl, reached⟩
      exact ⟨⟨field, member, rfl⟩, fun missing => (leavesOut_iff valid member).mp missing reached⟩
    -- A name that is not left out belongs to a field that gives a value.
    · rintro ⟨⟨field, member, rfl⟩, kept⟩
      exact ⟨field, member, rfl, Classical.not_not.mp fun missing =>
        kept ((leavesOut_iff valid member).mpr missing)⟩
  · -- Otherwise one value stands for all, and no name of a temperature is left out.
    have kept : ¬ format.LeavesOut response name := by
      rintro ⟨rfl, valid, _⟩
      exact gives ⟨valid, fun other => nomatch other⟩
    rw [parse_otherwise gives, names_sentinels, and_iff_left kept]

/-- Under a name there is one value, that of the field that bears it. -/
theorem mem_parse_iff (valid : response.valid = true)
    (covered : format = .pmbus → regulatorPayload ≤ response.payload.length) {field : Field}
    (member : field ∈ format.fields) {value : UInt16} :
    (field.name, value) ∈ format.parse response ↔
      contribution response.data field = some (field.name, value) := by
  rw [parse_valid valid covered, List.mem_filterMap]
  constructor
  -- Names are distinct, so that the value comes from this field and from no other.
  · rintro ⟨other, listed, given⟩
    obtain rfl := field_of_name member listed (contribution_name given)
    exact given
  · exact fun given => ⟨field, member, given⟩

/-- A field that the data reaches has its number for a value, and no other value. -/
theorem mem_parse_within (valid : response.valid = true)
    (covered : format = .pmbus → regulatorPayload ≤ response.payload.length) {field : Field}
    (member : field ∈ format.fields) (within : field.Within response.data) (value : UInt16) :
    (field.name, value) ∈ format.parse response ↔ value.toNat = field.number response.data := by
  -- The field contributes its number, and two words are the same if their numbers are.
  obtain ⟨read, given, number⟩ := contribution_within within
  rw [mem_parse_iff valid covered member, given, ← number, Option.some.injEq, Prod.mk.injEq,
    UInt16.toNat_inj]
  exact ⟨fun same => same.2.symm, fun same => ⟨rfl, same.symm⟩⟩

end Answers

/--
Parsing an answer of any length, for every format.

The names that get a value are the declared ones, in their order and once each, but for the memory
slots that a temperature answer ends before. An answer flagged invalid gives every name the value
for invalid ones, or the one for absent ones where it is too short for regulators. A field that an
answer reaches has the number in its bytes for its only value, and so it has in every longer answer.
-/
theorem parse_reads (format : Format) (response : Response) :
    (((format.parse response).map Prod.fst).Sublist format.metrics ∧ format.metrics.Nodup ∧
      ∀ name, name ∈ (format.parse response).map Prod.fst ↔
        name ∈ format.metrics ∧ ¬ format.LeavesOut response name) ∧
    (response.valid = false → format.parse response = format.sentinels
      (if format = .pmbus ∧ response.payload.length < 14 then 0xFFFE else 0xFFFF)) ∧
    ∀ longer : Response, response.valid = true → longer.valid = true →
      response.data <+: longer.data → (format = .pmbus → 14 ≤ response.payload.length) →
      ∀ field ∈ format.fields, field.Within response.data →
      ∃ value : UInt16, value.toNat = field.number response.data ∧ ∀ other,
        ((field.name, other) ∈ format.parse response ↔ other = value) ∧
        ((field.name, other) ∈ format.parse longer ↔ other = value) := by
  refine ⟨⟨names_parse format response, metrics_nodup format, fun _ => mem_names_iff⟩,
    fun invalid => parse_otherwise (by simp [invalid]), ?_⟩
  intro longer valid alsoValid continued covered field member within
  -- The field is read from the shorter answer, and this is the value that both have.
  obtain ⟨value, _, number⟩ := Field.exists_read? within
  -- What goes on further covers the regulators too, and has the same bytes in the field.
  have alsoCovered : format = .pmbus → regulatorPayload ≤ longer.payload.length := by
    intro regulators
    have enough := covered regulators
    have further := continued.length_le
    simp only [Response.payload, List.length_drop, regulatorPayload] at enough ⊢
    omega
  refine ⟨value, number, fun other => ?_⟩
  rw [mem_parse_within valid covered member within,
    mem_parse_within alsoValid alsoCovered member (within.of_prefix continued),
    within.number_eq continued, ← number, UInt16.toNat_inj]
  exact ⟨Iff.rfl, Iff.rfl⟩

/-- A temperature answer that ends within the second slot, and one that goes on from there. -/
theorem parse_reads_temperature :
    temperature.parse (.answered [0x00, 0x57, 0x01, 0x00, 0x23, 0x25, 0x21, 0x22, 0x30])
        = [("cpu/0", 0x23), ("cpu/1", 0x25), ("cpu/2", 0x21), ("cpu/3", 0x22),
          ("memory/dimm/0", 0x30)] ∧
    ("memory/dimm/0", 0x30) ∈ temperature.parse
        (.answered [0x00, 0x57, 0x01, 0x00, 0x23, 0x25, 0x21, 0x22, 0x30, 0x31]) ∧
    pmbus.parse ⟨[0x00, 0x57], false⟩ = pmbus.sentinels 0xFFFE := by
  -- The first slot is the last byte of the shorter answer.
  have reached : Field.Within (slotField 0)
      [0x00, 0x57, 0x01, 0x00, 0x23, 0x25, 0x21, 0x22, 0x30] := by
    unfold Field.Within
    decide
  obtain ⟨value, number, only⟩ := (parse_reads .temperature
      (.answered [0x00, 0x57, 0x01, 0x00, 0x23, 0x25, 0x21, 0x22, 0x30])).2.2
    (.answered [0x00, 0x57, 0x01, 0x00, 0x23, 0x25, 0x21, 0x22, 0x30, 0x31]) rfl rfl
    ⟨[0x31], rfl⟩ (fun other => nomatch other) (slotField 0) (slotField_mem (by decide)) reached
  have read : value = 0x30 := UInt16.toNat_inj.mp number
  exact ⟨by decide +kernel, (only 0x30).2.mpr read.symm,
    (parse_reads .pmbus ⟨[0x00, 0x57], false⟩).2.1 rfl⟩

end Format

end BmcTelemetry
