import BmcTelemetry.Json.Basic
import BmcTelemetry.Text.Hex

/-! Reading JSON documents. -/

namespace BmcTelemetry.Json

/-- Whether a character may stand between the parts of a document. -/
def isSpace (char : Char) : Bool :=
  char == ' ' || char == '\t' || char == '\n' || char == '\r'

/-- What is left after the spaces in front. -/
def skipSpaces (text : List Char) : List Char :=
  text.dropWhile isSpace

/-- What a single character after a backslash stands for. -/
def shortEscape? (char : Char) : Option Char :=
  if char = '"' then some '"'
  else if char = '\\' then some '\\'
  else if char = '/' then some '/'
  else if char = 'b' then some '\x08'
  else if char = 'f' then some '\x0c'
  else if char = 'n' then some '\n'
  else if char = 'r' then some '\r'
  else if char = 't' then some '\t'
  else none

/-- The 16-bit unit that four digits spell. -/
def unit? (first second third fourth : Char) : Option Nat := do
  return (← Hex.value? first) * 4096 + (← Hex.value? second) * 256 + (← Hex.value? third) * 16
    + (← Hex.value? fourth)

/-- Whether a unit is the first half of a pair. -/
def isHigh (unit : Nat) : Bool :=
  0xD800 ≤ unit && unit < 0xDC00

/-- Whether a unit is the second half of a pair. -/
def isLow (unit : Nat) : Bool :=
  0xDC00 ≤ unit && unit < 0xE000

/-- Puts a unit in front of a string; a half of a pair waits for its other half. -/
def consUnit (unit : Nat) (rest : List StringPart) : List StringPart :=
  if isHigh unit then
    match rest with
    | .lone low :: others =>
      if isLow low.toNat then
        .char (Char.ofNat (0x10000 + (unit - 0xD800) * 0x400 + (low.toNat - 0xDC00))) :: others
      else .lone (UInt16.ofNat unit) :: rest
    | _ => .lone (UInt16.ofNat unit) :: rest
  else if isLow unit then .lone (UInt16.ofNat unit) :: rest
  else .char (Char.ofNat unit) :: rest

/-- Reads a string whose opening quote has been read, and gives what follows it. -/
def readString : List Char → Option (List StringPart × List Char)
  | [] => none
  | '"' :: rest => some ([], rest)
  | '\\' :: 'u' :: first :: second :: third :: fourth :: rest => do
    let unit ← unit? first second third fourth
    let (parts, rest) ← readString rest
    return (consUnit unit parts, rest)
  | '\\' :: escape :: rest => do
    let char ← shortEscape? escape
    let (parts, rest) ← readString rest
    return (.char char :: parts, rest)
  | char :: rest =>
    -- A control character has to be escaped, and so has a backslash that ends the text.
    if char.toNat < 32 ∨ char = '\\' then none
    else do
      let (parts, rest) ← readString rest
      return (.char char :: parts, rest)

/-- What is left after a word, if the text begins with it. -/
def afterWord : List Char → List Char → Option (List Char)
  | [], text => some text
  | _ :: _, [] => none
  | expected :: word, char :: text => if char = expected then afterWord word text else none

mutual

/-- Reads a document nested no deeper than so many steps, and gives what follows it. -/
def readValue : Nat → List Char → Option (Json × List Char)
  | 0, _ => none
  | budget + 1, text =>
    match skipSpaces text with
    | [] => none
    | '"' :: rest => do
      let (parts, rest) ← readString rest
      return (.string parts, rest)
    | '[' :: rest =>
      match skipSpaces rest with
      | ']' :: rest => some (.array [], rest)
      | rest => do
        let (first, rest) ← readValue budget rest
        let (others, rest) ← readItems budget rest
        return (.array (first :: others), rest)
    | '\x7b' :: rest =>
      match skipSpaces rest with
      | '\x7d' :: rest => some (.object [], rest)
      | rest => do
        let (first, rest) ← readMember budget rest
        let (others, rest) ← readMembers budget rest
        return (.object (first :: others), rest)
    | 'n' :: rest => (afterWord ['u', 'l', 'l'] rest).map fun rest => (.null, rest)
    | 't' :: rest => (afterWord ['r', 'u', 'e'] rest).map fun rest => (.bool true, rest)
    | 'f' :: rest => (afterWord ['a', 'l', 's', 'e'] rest).map fun rest => (.bool false, rest)
    | rest => (Numeral.read rest).map fun (numeral, rest) => (.number numeral, rest)

/-- Reads the items after the first, up to the closing bracket. -/
def readItems : Nat → List Char → Option (List Json × List Char)
  | 0, _ => none
  | budget + 1, text =>
    match skipSpaces text with
    | ']' :: rest => some ([], rest)
    | ',' :: rest => do
      let (item, rest) ← readValue budget rest
      let (others, rest) ← readItems budget rest
      return (item :: others, rest)
    | _ => none

/-- Reads a name, a colon and a value. -/
def readMember : Nat → List Char → Option ((List StringPart × Json) × List Char)
  | 0, _ => none
  | budget + 1, text =>
    match skipSpaces text with
    | '"' :: rest => do
      let (name, rest) ← readString rest
      match skipSpaces rest with
      | ':' :: rest => do
        let (value, rest) ← readValue budget rest
        return ((name, value), rest)
      | _ => none
    | _ => none

/-- Reads the members after the first, up to the closing brace. -/
def readMembers : Nat → List Char → Option (List (List StringPart × Json) × List Char)
  | 0, _ => none
  | budget + 1, text =>
    match skipSpaces text with
    | '\x7d' :: rest => some ([], rest)
    | ',' :: rest => do
      let (member, rest) ← readMember budget rest
      let (others, rest) ← readMembers budget rest
      return (member :: others, rest)
    | _ => none

end

/-- Reads a document that makes up a whole text. -/
def read (text : List Char) : Option Json :=
  -- Every step takes a character except those into a member, so twice the length is enough.
  match readValue (2 * text.length + 2) text with
  | some (document, rest) => if (skipSpaces rest).isEmpty then some document else none
  | none => none

end BmcTelemetry.Json
