import BmcTelemetry.Json.Basic
import BmcTelemetry.Text.Hex

/-! Writing JSON documents, on one line or indented. -/

namespace BmcTelemetry.Json

/-- The four digits of a 16-bit unit behind their escape. -/
def unitEscape (unit : Nat) : List Char :=
  ['\\', 'u', Hex.digit (unit / 4096 % 16), Hex.digit (unit / 256 % 16),
    Hex.digit (unit / 16 % 16), Hex.digit (unit % 16)]

/-- A character inside a string; quotes, backslashes and control characters are escaped. -/
def escapeChar (char : Char) : List Char :=
  if char = '"' then ['\\', '"']
  else if char = '\\' then ['\\', '\\']
  else if char = '\x08' then ['\\', 'b']
  else if char = '\x0c' then ['\\', 'f']
  else if char = '\n' then ['\\', 'n']
  else if char = '\r' then ['\\', 'r']
  else if char = '\t' then ['\\', 't']
  else if char.toNat < 32 then unitEscape char.toNat
  else [char]

/-- A part of a string. -/
def escapePart : StringPart → List Char
  | .char value => escapeChar value
  | .lone unit => unitEscape unit.toNat

/-- A string in its quotes. -/
def quoted (parts : List StringPart) : List Char :=
  '"' :: parts.flatMap escapePart ++ ['"']

/-- A truth value. -/
def boolChars (value : Bool) : List Char :=
  if value then ['t', 'r', 'u', 'e'] else ['f', 'a', 'l', 's', 'e']

/-- Where a document is broken into lines, and how far each is indented. -/
inductive Layout where
  /-- Everything on one line. -/
  | compact
  /-- One item or member a line, indented by twice the depth. -/
  | indented (depth : Nat)
deriving DecidableEq, Repr

namespace Layout

/-- What stands in front of an item. -/
def lead : Layout → List Char
  | .compact => []
  | .indented depth => '\n' :: List.replicate (2 * depth) ' '

/-- The layout of what stands inside. -/
def inner : Layout → Layout
  | .compact => .compact
  | .indented depth => .indented (depth + 1)

/-- What stands between a name and its value. -/
def colon : Layout → List Char
  | .compact => [':']
  | .indented _ => [':', ' ']

end Layout

mutual

/-- The text of a document. -/
def print (layout : Layout) : Json → List Char
  | .null => ['n', 'u', 'l', 'l']
  | .bool value => boolChars value
  | .number numeral => numeral.toChars
  | .string parts => quoted parts
  -- Nothing to break into lines.
  | .array [] => ['[', ']']
  | .array (first :: rest) =>
    '[' :: layout.inner.lead ++ print layout.inner first ++ printItems layout.inner rest
      ++ layout.lead ++ [']']
  | .object [] => ['\x7b', '\x7d']
  | .object ((name, value) :: rest) =>
    '\x7b' :: layout.inner.lead ++ quoted name ++ layout.colon ++ print layout.inner value
      ++ printMembers layout.inner rest ++ layout.lead ++ ['\x7d']

/-- The text of the items after the first. -/
def printItems (layout : Layout) : List Json → List Char
  | [] => []
  | item :: rest => ',' :: layout.lead ++ print layout item ++ printItems layout rest

/-- The text of the members after the first. -/
def printMembers (layout : Layout) : List (List StringPart × Json) → List Char
  | [] => []
  | (name, value) :: rest =>
    ',' :: layout.lead ++ quoted name ++ layout.colon ++ print layout value
      ++ printMembers layout rest

end

/-- A document on one line. -/
def compact (document : Json) : String :=
  String.ofList (document.print .compact)

/-- A document over several lines, indented by two spaces. -/
def pretty (document : Json) : String :=
  String.ofList (document.print (.indented 0))

end BmcTelemetry.Json
