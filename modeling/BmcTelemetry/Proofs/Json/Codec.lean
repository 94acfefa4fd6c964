import BmcTelemetry.Json.Record
import BmcTelemetry.Proofs.Json.Reader
import Mathlib.Data.List.Forall2

/-!
Codecs that keep values: what is written for a value is read as the value.

Each codec keeps what its parts keep. A record keeps a value when every field carries its part over
and the parts together are the value.
-/

namespace BmcTelemetry.Json

/-- Characters alone are the text that they make up. -/
theorem charsOf?_chars (chars : List Char) : charsOf? (chars.map .char) = some chars := by
  -- A part that is a character joins the text of the others.
  induction chars with
  | nil => rfl
  | cons char chars ih =>
    rw [List.map_cons, charsOf?, ih]
    rfl

/-- The parts of a text make up the text. -/
@[simp] theorem textOf?_partsOf (value : String) : textOf? (partsOf value) = some value := by
  -- The parts are the characters of the text, which make it up again.
  rw [textOf?, partsOf, charsOf?_chars, Option.map_some, String.ofList_toList]

/-- Where names are distinct, each of them leads to the value that has it. -/
theorem find?_name {α : Type} {name : α → String} {values : List α} {value : α}
    (distinct : (values.map name).Nodup) (member : value ∈ values) :
    values.find? (name · == name value) = some value := by
  induction values with
  | nil => cases member
  | cons first others ih =>
    obtain ⟨fresh, distinct⟩ := List.nodup_cons.mp distinct
    -- The search ends at the first value that has the name.
    rcases List.mem_cons.mp member with rfl | later
    · rw [List.find?_cons_of_pos (by simp)]
    · -- The first value has a name that none of the others has.
      have different : name first ≠ name value :=
        fun same => fresh (same ▸ List.mem_map_of_mem later)
      rw [List.find?_cons_of_neg (by simpa using different)]
      exact ih distinct later

namespace Codec

variable {α : Type}

/-- What a codec writes for a value can be printed, and is read as the value. -/
structure Keeps (codec : Codec α) (value : α) : Prop where
  /-- The document has only characters in its strings, and its numbers follow the grammar. -/
  sound : (codec.encode value).Sound
  /-- The document is read as the value. -/
  back : codec.decode (codec.encode value) = some value

/-- Every text is kept. -/
theorem keeps_text (value : String) : text.Keeps value where
  sound := .string value.toList
  back := textOf?_partsOf value

/-- Every truth value is kept. -/
theorem keeps_bool (value : Bool) : bool.Keeps value where
  sound := .bool value
  back := rfl

/-- Every byte is kept. -/
theorem keeps_byte (value : UInt8) : byte.Keeps value where
  sound := .number (Numeral.sound_ofNat value.toNat)
  back := Numeral.toByte?_ofNat value

/-- A floating-point number is kept when its digits are read as the number. -/
theorem keeps_float {value : Float} (finite : value.isFinite = true)
    (reads : (Numeral.ofFloat value).toFloat? = some value) : float.Keeps value where
  sound := by
    -- A finite number is written with its digits, which follow the grammar.
    rw [float]
    simp only [finite, if_true]
    exact .number (Numeral.sound_ofFloat value)
  back := by
    -- What is written are the digits, and they are read as the number by assumption.
    simp only [float, finite, if_true]
    exact reads

/-- Values are kept together when each of them is. -/
theorem keeps_list {item : Codec α} {values : List α}
    (each : ∀ value ∈ values, item.Keeps value) : (list item).Keeps values where
  sound := by
    -- Every document inside is that of a value.
    refine .array fun document member => ?_
    obtain ⟨value, listed, rfl⟩ := List.mem_map.mp member
    exact (each value listed).sound
  back := by
    -- Reading the array reads each document by itself, and each of them is kept.
    change (values.map item.encode).mapM item.decode = some values
    induction values with
    | nil => rfl
    | cons value values ih =>
      obtain ⟨own, others⟩ := List.forall_mem_cons.mp each
      rw [List.map_cons, List.mapM_cons, own.back, ih others]
      rfl

/-- A value is kept by its name, when no other value has the name. -/
theorem keeps_choice {all : List α} {name : α → String} (distinct : (all.map name).Nodup)
    {value : α} (listed : value ∈ all) : (choice all name).Keeps value where
  sound := .string (name value).toList
  back := by
    -- The text is read back first, and the search by the name finds the value.
    simp only [choice, Json.text, textOf?_partsOf, Option.bind_eq_bind, Option.bind_some]
    exact find?_name distinct listed

end Codec

section Records

variable {σ α : Type}

/-- A field that takes its part of a record over into any other record. -/
structure RecordField.Carries (record : σ) (field : RecordField σ) (copy : σ → σ) : Prop where
  /-- The document has only characters in its strings, and its numbers follow the grammar. -/
  sound : (field.write record).Sound
  /-- From the document, the part is taken over. -/
  back : ∀ known, field.read (field.write record) known = some (copy known)

/-- A field carries over what its codec keeps. -/
theorem RecordField.carries_of {name : String} {codec : Codec α} {get : σ → α}
    {set : α → σ → σ} {record : σ} (keeps : codec.Keeps (get record)) :
    (RecordField.of name codec get set).Carries record (set (get record)) where
  sound := keeps.sound
  back := by
    -- The codec gives the part back, and setting it is what taking over means.
    intro known
    simp only [RecordField.of, keeps.back, Option.map_some]

/-- The documents of all fields have only characters in their strings. -/
theorem sound_carried {record : σ} {fields : List (RecordField σ)} {copies : List (σ → σ)}
    (carried : List.Forall₂ (RecordField.Carries record) fields copies) :
    ∀ field ∈ fields, (field.write record).Sound := by
  -- Each field comes with the carrying of its own part.
  induction carried with
  | nil => exact fun _ listed => nomatch listed
  | cons own _ ih => exact List.forall_mem_cons.mpr ⟨own.sound, ih⟩

/-- Named parts are found by their names, one after another. -/
theorem readNamed_carried {fields : List (RecordField σ)} {record : σ}
    (distinct : (fields.map (·.name)).Nodup) {later : List (RecordField σ)}
    {copies : List (σ → σ)} (carried : List.Forall₂ (RecordField.Carries record) later copies)
    (suffix : later <:+ fields) {seen : List String}
    (fresh : ∀ field ∈ later, field.name ∉ seen) (known : σ) :
    readNamed fields seen (later.map fun field => (partsOf field.name, field.write record)) known
      = some (copies.foldl (fun known copy => copy known) known) := by
  -- The fields that are left end the list of all, and none of their names has been seen.
  induction carried generalizing seen known with
  | nil => rfl
  | @cons field copy later copies own _ ih =>
    obtain ⟨new, others⟩ := List.forall_mem_cons.mp fresh
    -- The field at the front is one of the record, so that its name leads to it.
    have listed : field ∈ fields := suffix.subset List.mem_cons_self
    have rest : later <:+ fields := (List.suffix_cons field later).trans suffix
    -- The field's name is seen from here on, and no later field has it.
    have apart : ∀ other ∈ later, other.name ∉ field.name :: seen := by
      intro other member named
      have unique := (distinct.sublist (suffix.sublist.map (·.name)))
      rw [List.map_cons, List.nodup_cons] at unique
      rcases List.mem_cons.mp named with same | old
      · exact unique.1 (same ▸ List.mem_map_of_mem member)
      · exact others other member old
    -- The name leads to the field, it has not been seen, and its part is taken over.
    have found := find?_name distinct listed
    simp only [List.map_cons, readNamed, textOf?_partsOf, Option.bind_eq_bind, Option.bind_some,
      found, if_neg new, own.back, List.foldl_cons]
    exact ih rest apart (copy known)

/-- A record is kept when each field carries its part over, and the parts make up the record. -/
theorem Codec.keeps_record {fields : List (RecordField σ)} {initial record : σ}
    (distinct : (fields.map (·.name)).Nodup) {copies : List (σ → σ)}
    (carried : List.Forall₂ (RecordField.Carries record) fields copies)
    (whole : copies.foldl (fun known copy => copy known) initial = record) :
    (Codec.record fields initial).Keeps record where
  sound := by
    -- Names are texts, so they have only characters.
    refine .object ?_ ?_
    · intro member listed
      simp only [List.map_map, List.mem_map, Function.comp_apply] at listed
      obtain ⟨field, _, rfl⟩ := listed
      exact ⟨field.name.toList, rfl⟩
    · intro member listed
      simp only [List.map_map, List.mem_map, Function.comp_apply] at listed
      obtain ⟨field, known, rfl⟩ := listed
      exact sound_carried carried field known
  back := by
    -- All fields are still to come, and no name has been seen yet.
    have unseen : ∀ field ∈ fields, field.name ∉ ([] : List String) :=
      fun _ _ => List.not_mem_nil
    have taken := readNamed_carried distinct carried List.suffix_rfl unseen initial
    simp only [Codec.record, Json.record, List.map_map]
    -- What the fields take over, one after another, is the whole record.
    rw [whole] at taken
    exact taken

end Records

end BmcTelemetry.Json
