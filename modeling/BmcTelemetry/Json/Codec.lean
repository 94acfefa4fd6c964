import BmcTelemetry.Json.Basic

/-! Codecs: values written as JSON documents and read back from them. -/

namespace BmcTelemetry.Json

/-- A way of writing values as documents and of reading documents as values. -/
structure Codec (α : Type) where
  /-- The document that a value is written as. -/
  encode : α → Json
  /-- The value that a document stands for, if it stands for one. -/
  decode : Json → Option α

namespace Codec

variable {α : Type}

/-- A text as a string; a string with half of a pair is no text. -/
def text : Codec String where
  encode := Json.text
  decode
    | .string parts => textOf? parts
    | _ => none

/-- A truth value. -/
def bool : Codec Bool where
  encode := .bool
  decode
    | .bool value => some value
    | _ => none

/-- A byte as a whole number. -/
def byte : Codec UInt8 where
  encode value := nat value.toNat
  decode
    | .number numeral => numeral.toByte?
    | _ => none

/-- A floating-point number; one that is not finite has no spelling. -/
def float : Codec Float where
  encode value := if value.isFinite then .number (.ofFloat value) else .null
  decode
    | .number numeral => numeral.toFloat?
    | _ => none

/-- Several values as an array. -/
def list (item : Codec α) : Codec (List α) where
  encode values := .array (values.map item.encode)
  decode
    | .array items => items.mapM item.decode
    | _ => none

/-- One of finitely many values by its name; the name may also stand alone in an object. -/
def choice (all : List α) (name : α → String) : Codec α where
  encode value := Json.text (name value)
  decode document := do
    let parts ← match document with
      | .string parts => some parts
      | .object [(parts, .null)] => some parts
      | _ => none
    let asked ← textOf? parts
    all.find? (name · == asked)

end Codec

end BmcTelemetry.Json
