import BmcTelemetry.Text.Hex
import BmcTelemetry.Text.Unseen

/-! Text in quotes, with every character that would not show spelled out. -/

namespace BmcTelemetry.Text

/-- The hexadecimal digits of a number, without zeros in front. -/
def hexNumber (value : Nat) : List Char :=
  if value < 16 then [Hex.digit value]
  else hexNumber (value / 16) ++ [Hex.digit (value % 16)]
termination_by value

/-- The code point of a character, spelled out. -/
def codePoint (char : Char) : List Char :=
  ['\\', 'u', '\x7b'] ++ hexNumber char.toNat ++ ['\x7d']

/-- A character inside quotes. -/
def escapeChar (char : Char) : List Char :=
  if char = '\\' ∨ char = '"' then ['\\', char]
  else if char = '\t' then ['\\', 't']
  else if char = '\n' then ['\\', 'n']
  else if char = '\r' then ['\\', 'r']
  else if char = '\x00' then ['\\', '0']
  else if isUnseen char then codePoint char
  else [char]

/-- A text in quotes. -/
def quoted (text : String) : String :=
  String.ofList ('"' :: text.toList.flatMap escapeChar ++ ['"'])

end BmcTelemetry.Text
