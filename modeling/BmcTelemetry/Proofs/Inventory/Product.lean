import BmcTelemetry.Proofs.Inventory.Field
import BmcTelemetry.Proofs.Text.Utf8

/-! Product areas as they are written, and what is decoded from their fields. -/

namespace BmcTelemetry.Inventory

namespace Field

/-- A field with a text: one byte for its type and length, and the bytes of the text. -/
def ofText (text : String) : Bytes :=
  (0xC0 ||| UInt8.ofNat text.utf8ByteSize) :: text.toUTF8.data.toList

/-- A text without the white space around it. -/
def trimmed (text : String) : String :=
  String.ofList (Text.trim text.toList)

/-- A text that fits into a field, and that nothing in it cuts short. -/
structure Holdable (text : String) : Prop where
  /-- The length fits into the six bits that there are for it. -/
  short : text.utf8ByteSize ≤ 63
  /-- No character is the one that marks an end. -/
  unmarked : '\x00' ∉ text.toList

/-- A text has as many bytes as its size says. -/
theorem length_toUTF8 (text : String) : text.toUTF8.data.toList.length = text.utf8ByteSize := by
  -- The size of a text is that of its bytes.
  rw [String.toUTF8_eq_toByteArray, ← String.size_toByteArray]
  rfl

/-- A field with a text is one whose content is spelled as it is. -/
theorem ofText_eq (text : String) : ofText text = ofBytes .text text.toUTF8.data.toList := by
  -- The mark of a text has both of the top bits set.
  rw [ofText, ofBytes, length_toUTF8]
  rfl

/-- A field takes a byte more than its text. -/
theorem length_ofText (text : String) : (ofText text).length = text.utf8ByteSize + 1 := by
  rw [ofText, List.length_cons, length_toUTF8]

/-- The text of a field reads back, whatever follows it. -/
theorem decode_ofText {text : String} (holdable : Holdable text) (rest : Bytes) :
    decode (ofText text ++ rest) = trimmed text := by
  -- The length fits into the six bits of the first byte.
  have short : text.toUTF8.data.toList.length ≤ 63 := by
    rw [length_toUTF8]
    exact holdable.short
  -- No byte of the text ends it early.
  have whole : content text.toUTF8.data.toList = text.toUTF8.data.toList := by
    refine content_eq_self fun byte member => Utf8.encode_marks holdable.unmarked byte ?_
    rwa [← Utf8.toUTF8_eq_encode]
  rw [ofText_eq, decode_ofBytes .text short, whole, spell, Utf8.toUTF8_eq_encode,
    Utf8.decodeLossy_encode, trimmed]

end Field

namespace ProductArea

/-- Fields that follow one another are found and decoded in order. -/
theorem decode_fieldStarts {area : Bytes} (texts : List String)
    (holdable : ∀ text ∈ texts, Field.Holdable text) :
    ∀ {before rest : Bytes}, area = before ++ (texts.flatMap Field.ofText ++ rest) →
      (fieldStarts area texts.length before.length).map
          (fun place => Field.decode (area.drop place)) = texts.map Field.trimmed := by
  -- Each field is passed over together with what is before it.
  induction texts with
  | nil => exact fun _ => rfl
  | cons text texts ih =>
    intro before rest split
    have fits : Field.Holdable text := holdable text List.mem_cons_self
    -- The first field follows what is before it, and the other fields follow the first.
    rw [List.flatMap_cons, List.append_assoc] at split
    -- Its first byte is where the fields are looked for.
    have found : area[before.length]? = some (0xC0 ||| UInt8.ofNat text.utf8ByteSize) := by
      rw [split, List.getElem?_append_right (Nat.le_refl _), Nat.sub_self]
      rfl
    -- The field joins what is before, so that the others are found behind it.
    have onward := ih (fun other member => holdable other (List.mem_cons_of_mem _ member))
      (split.trans (List.append_assoc before (Field.ofText text) _).symm)
    rw [List.length_append, Field.length_ofText, ← Nat.add_assoc] at onward
    have length : Field.declared (0xC0 ||| UInt8.ofNat text.utf8ByteSize) = text.utf8ByteSize :=
      (Field.typeLength_mark .text fits.short).2
    -- From its length, the start of the next field is told.
    have starts : fieldStarts area (texts.length + 1) before.length = before.length ::
        fieldStarts area texts.length (before.length + text.utf8ByteSize + 1) := by
      rw [fieldStarts, found]
      simp only [length]
    -- Decoding looks at the field alone, although all others follow it.
    have first : Field.decode (area.drop before.length) = Field.trimmed text := by
      rw [split, List.drop_left, Field.decode_ofText fits]
    rw [List.length_cons, starts, List.map_cons, List.map_cons, onward, first]

end ProductArea

/-- The texts of a product area, in the order of their fields. -/
structure ProductTexts where
  /-- Who made the product. -/
  manufacturer : String
  /-- What the product is called. -/
  productName : String
  /-- The part number or model. -/
  partNumber : String
  /-- The version of the product. -/
  version : String
  /-- The serial number of the product. -/
  serial : String
deriving DecidableEq, Repr

namespace ProductTexts

/-- The texts one after another. -/
def all (texts : ProductTexts) : List String :=
  [texts.manufacturer, texts.productName, texts.partNumber, texts.version, texts.serial]

/-- A product area with the texts; the mark of the last field is followed by anything. -/
def area (texts : ProductTexts) (version units language : UInt8) (rest : Bytes) : Bytes :=
  [version, units, language] ++ (texts.all.flatMap Field.ofText ++ 0xC1 :: rest)

/-- The fields of an area are the texts without the white space around them. -/
theorem field?_area {texts : ProductTexts} (holdable : ∀ text ∈ texts.all, Field.Holdable text)
    (version units language : UInt8) (rest : Bytes) (index : Nat) :
    ProductArea.field? (texts.area version units language rest) index
      = (texts.all.map Field.trimmed)[index]? := by
  have split : texts.area version units language rest
      = [version, units, language] ++ (texts.all.flatMap Field.ofText ++ 0xC1 :: rest) := rfl
  -- Three bytes of header come before the fields, which are five in number.
  have decoded := ProductArea.decode_fieldStarts texts.all holdable split
  rw [ProductArea.field?, ← decoded, List.getElem?_map]
  rfl

end ProductTexts

end BmcTelemetry.Inventory
