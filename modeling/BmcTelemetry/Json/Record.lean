import BmcTelemetry.Json.Codec

/-! Records: values with named fields, each of which may be left out of a document. -/

namespace BmcTelemetry.Json

variable {σ α : Type}

/-- A field of a record. -/
structure RecordField (σ : Type) where
  /-- The name of the field. -/
  name : String
  /-- The document of the field's value. -/
  write : σ → Json
  /-- The record with the field's value taken from a document. -/
  read : Json → σ → Option σ

/-- The field of a name whose value is looked up and replaced in the given ways. -/
def RecordField.of (name : String) (codec : Codec α) (get : σ → α) (set : α → σ → σ) :
    RecordField σ where
  name
  write record := codec.encode (get record)
  read document record := (codec.decode document).map fun value => set value record

/-- Takes fields from members by their names, in whatever order they come. -/
def readNamed (fields : List (RecordField σ)) :
    List String → List (List StringPart × Json) → σ → Option σ
  | _, [], record => some record
  | seen, (name, document) :: rest, record => do
    let name ← textOf? name
    match fields.find? (·.name == name) with
    -- A name that no field has says nothing.
    | none => readNamed fields seen rest record
    | some field =>
      -- A name given twice leaves open which value is meant.
      if name ∈ seen then none
      else readNamed fields (name :: seen) rest (← field.read document record)

/-- Takes fields from items by their places; there may be fewer items than fields. -/
def readPlaced : List (RecordField σ) → List Json → σ → Option σ
  | _, [], record => some record
  | [], _ :: _, _ => none
  | field :: fields, item :: rest, record => do
    readPlaced fields rest (← field.read item record)

/-- A record with the given fields; those that a document leaves out are as in the initial one. -/
def Codec.record (fields : List (RecordField σ)) (initial : σ) : Codec σ where
  encode record := Json.record (fields.map fun field => (field.name, field.write record))
  decode
    | .object members => readNamed fields [] members initial
    | .array items => readPlaced fields items initial
    | _ => none

end BmcTelemetry.Json
