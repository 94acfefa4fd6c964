import BmcTelemetry.Json.Numeral

/-! JSON documents as trees that keep numbers as they are spelled. -/

namespace BmcTelemetry

/-- A part of a string: a character, or half of a pair whose other half is missing. -/
inductive StringPart where
  /-- A character. -/
  | char (value : Char)
  /-- A 16-bit unit that is no character by itself. -/
  | lone (unit : UInt16)
deriving DecidableEq, Repr

/-- A JSON document. -/
inductive Json where
  | null
  | bool (value : Bool)
  | number (numeral : Numeral)
  | string (parts : List StringPart)
  | array (items : List Json)
  | object (members : List (List StringPart × Json))
deriving Repr

namespace Json

/-- The characters of a string, absent when it holds half of a pair. -/
def charsOf? : List StringPart → Option (List Char)
  | [] => some []
  | .char value :: rest => (charsOf? rest).map (value :: ·)
  | .lone _ :: _ => none

/-- The text of a string, absent when it holds half of a pair. -/
def textOf? (parts : List StringPart) : Option String :=
  (charsOf? parts).map String.ofList

/-- The parts of a text. -/
def partsOf (text : String) : List StringPart :=
  text.toList.map .char

/-- A text as a document. -/
def text (value : String) : Json := .string (partsOf value)

/-- A natural number as a document. -/
def nat (value : Nat) : Json := .number (.ofNat value)

/-- Named documents as one. -/
def record (members : List (String × Json)) : Json :=
  .object (members.map fun (name, value) => (partsOf name, value))

end Json

end BmcTelemetry
