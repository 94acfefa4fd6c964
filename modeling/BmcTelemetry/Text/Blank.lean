/-! White space, and cutting text at separators. -/

namespace BmcTelemetry.Text

/-- Whether a character is white space by its Unicode property. -/
def isBlank (char : Char) : Bool :=
  let code := char.toNat
  -- The control characters and the space that every text uses.
  (0x09 ≤ code && code ≤ 0x0D) || code == 0x20 || code == 0x85 || code == 0xA0
    -- The spaces of particular widths and scripts.
    || code == 0x1680 || (0x2000 ≤ code && code ≤ 0x200A) || code == 0x202F || code == 0x205F
    || code == 0x3000
    -- The separators of lines and paragraphs.
    || code == 0x2028 || code == 0x2029

/-- The characters between the white space at either end. -/
def trim (chars : List Char) : List Char :=
  ((chars.dropWhile isBlank).reverse.dropWhile isBlank).reverse

/-- The pieces between separators, empty ones included. -/
def pieces (separates : Char → Bool) : List Char → List (List Char)
  | [] => [[]]
  | char :: rest =>
    if separates char then [] :: pieces separates rest
    else match pieces separates rest with
      | [] => [[char]]
      -- The character belongs to the piece that the rest begins with.
      | first :: others => (char :: first) :: others

/-- The non-empty pieces between white space. -/
def words (chars : List Char) : List (List Char) :=
  (pieces isBlank chars).filter (!·.isEmpty)

end BmcTelemetry.Text
