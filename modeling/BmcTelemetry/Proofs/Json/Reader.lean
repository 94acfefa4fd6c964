import BmcTelemetry.Json.Printer
import BmcTelemetry.Json.Reader
import BmcTelemetry.Proofs.Json.Numeral

/-!
Documents that are written read back, in either layout and whatever follows them.

Strings read back character by character, numbers by their grammar. Arrays and objects do when
everything inside does, and the text of a document is longer than the reader has to go deep.
-/

namespace BmcTelemetry

/-- A hexadecimal digit that is written reads back. -/
theorem Hex.value?_digit {value : Nat} (small : value < 16) :
    value? (digit value) = some value := by
  -- There are sixteen of them.
  have each : ∀ value : Fin 16, value? (digit value.val) = some value.val := by decide
  exact each ⟨value, small⟩

namespace Json

/-! Strings. -/

/-- A character in front of what is read of a string. -/
def consChar (char : Char) (read : List StringPart × List Char) : List StringPart × List Char :=
  (.char char :: read.1, read.2)

/-- A character behind a backslash is read as what it stands for. -/
theorem readString_short {escape char : Char} (short : shortEscape? escape = some char)
    (text : List Char) :
    readString ('\\' :: escape :: text) = (readString text).map (consChar char) := by
  -- The mark of a unit stands for no character by itself.
  have other : escape ≠ 'u' := by
    rintro rfl
    cases short
  -- Each form of escape is tried in turn, and the one for units asks for its mark.
  rw [readString, short]
  · cases readString text <;> rfl
  · intro first second third fourth rest same
    exact absurd same other

/-- Four digits that are written for a unit are read as the unit. -/
theorem unit?_digits {unit : Nat} (small : unit < 65536) :
    unit? (Hex.digit (unit / 4096 % 16)) (Hex.digit (unit / 256 % 16))
      (Hex.digit (unit / 16 % 16)) (Hex.digit (unit % 16)) = some unit := by
  -- Each of the four digits is below sixteen and reads back by itself.
  have digit (number : Nat) : Hex.value? (Hex.digit (number % 16)) = some (number % 16) :=
    Hex.value?_digit (Nat.mod_lt _ (by decide))
  -- The four digits put together make up the unit again.
  simp only [unit?, digit, Option.bind_eq_bind, Option.bind_some]
  change some _ = _
  congr 1
  omega

/-- A control character is read from its unit, which is no half of a pair. -/
theorem readString_unit {char : Char} (control : char.toNat < 32) (text : List Char) :
    readString (unitEscape char.toNat ++ text) = (readString text).map (consChar char) := by
  -- Halves of pairs begin far above the control characters.
  have high : isHigh char.toNat = false := by
    simp [isHigh]
    omega
  have low : isLow char.toNat = false := by
    simp [isLow]
    omega
  -- A unit that is no half of a pair stands for one character.
  have single (parts : List StringPart) : consUnit char.toNat parts = .char char :: parts := by
    simp [consUnit, high, low]
  have digits := unit?_digits (show char.toNat < 65536 by omega)
  simp only [unitEscape, List.cons_append, List.nil_append, readString, digits]
  -- Whether the rest of the string can be read does not depend on the character.
  cases readString text with
  | none => rfl
  | some read => exact congrArg (fun parts => some (parts, read.2)) (single read.1)

/-- Any other character is read as it stands. -/
theorem readString_plain {char : Char} (least : ¬ char.toNat < 32) (quote : char ≠ '"')
    (escape : char ≠ '\\') (text : List Char) :
    readString (char :: text) = (readString text).map (consChar char) := by
  -- The last branch of the reader is reached, since the ones above are for quotes and escapes.
  rw [readString]
  · rw [if_neg (by simp [least, escape])]
    -- A quote in front would end the string.
    cases readString text <;> rfl
  · exact quote
  -- A backslash in front would begin a unit or another escape.
  · rintro first second third fourth rest rfl
    exact absurd rfl escape
  · rintro short rest rfl
    exact absurd rfl escape

/-- A character of a string reads back, escaped or not. -/
theorem readString_escapeChar (char : Char) (text : List Char) :
    readString (escapeChar char ++ text) = (readString text).map (consChar char) := by
  rw [escapeChar]
  by_cases quote : char = '"'
  -- The quote and the backslash have an escape of their own.
  · subst quote
    exact readString_short rfl text
  rw [if_neg quote]
  by_cases escape : char = '\\'
  · subst escape
    exact readString_short rfl text
  rw [if_neg escape]
  -- Five control characters have an escape of their own, and all others are written as units.
  split
  · next same => exact same ▸ readString_short rfl text
  split
  · next same => exact same ▸ readString_short rfl text
  split
  · next same => exact same ▸ readString_short rfl text
  split
  · next same => exact same ▸ readString_short rfl text
  split
  · next same => exact same ▸ readString_short rfl text
  split
  -- The control characters that are left have no short escape.
  · next control => exact readString_unit control text
  · next least => exact readString_plain least quote escape text

/-- The characters of a string read back up to the closing quote. -/
theorem readString_escaped (chars rest : List Char) :
    readString (chars.flatMap escapeChar ++ '"' :: rest) = some (chars.map .char, rest) := by
  -- The string is read character by character, until the quote that closes it.
  induction chars with
  | nil => rw [List.flatMap_nil, List.nil_append, readString, List.map_nil]
  | cons char chars ih =>
    rw [List.flatMap_cons, List.append_assoc, readString_escapeChar, ih]
    rfl

/-- A string of characters in its quotes. -/
theorem quoted_chars (chars rest : List Char) :
    quoted (chars.map .char) ++ rest = '"' :: (chars.flatMap escapeChar ++ '"' :: rest) := by
  simp only [quoted, List.flatMap_map, List.cons_append, List.append_assoc, List.nil_append]
  rfl

/-! Spaces. -/

/-- Nothing is skipped in front of a character that is no space. -/
theorem skipSpaces_cons {char : Char} (solid : isSpace char = false) (rest : List Char) :
    skipSpaces (char :: rest) = char :: rest := by
  -- Skipping ends at the first character that is no space.
  rw [skipSpaces, List.dropWhile_cons, if_neg (by simp [solid])]

/-- What stands in front of an item is skipped. -/
theorem skipSpaces_lead (layout : Layout) (text : List Char) :
    skipSpaces (layout.lead ++ text) = skipSpaces text := by
  cases layout with
  | compact => rfl
  | indented depth =>
    -- A line break comes first, and then one space after another.
    have blanks : ∀ count, skipSpaces (List.replicate count ' ' ++ text) = skipSpaces text := by
      intro count
      induction count with
      | zero => rfl
      | succ count ih => exact ih
    exact blanks (2 * depth)

/-! Documents. -/

/-- A document of which every number follows the grammar and every string has only characters. -/
inductive Sound : Json → Prop
  | null : Sound .null
  | bool (value : Bool) : Sound (.bool value)
  | number {numeral : Numeral} (sound : numeral.Sound) : Sound (.number numeral)
  | string (chars : List Char) : Sound (.string (chars.map .char))
  | array {items : List Json} (each : ∀ item ∈ items, Sound item) : Sound (.array items)
  | object {members : List (List StringPart × Json)}
      (names : ∀ member ∈ members, ∃ chars : List Char, member.1 = chars.map .char)
      (each : ∀ member ∈ members, Sound member.2) : Sound (.object members)

/-- A document begins with a character that is neither a space nor a closing bracket. -/
theorem Sound.print_eq_cons {document : Json} (sound : document.Sound) (layout : Layout) :
    ∃ first rest, document.print layout = first :: rest ∧ isSpace first = false ∧ first ≠ ']' := by
  -- The first character tells what kind of document it is.
  cases sound with
  | null => exact ⟨'n', _, rfl, by decide, by decide⟩
  | bool value =>
    cases value with
    | true => exact ⟨'t', _, rfl, by decide, by decide⟩
    | false => exact ⟨'f', _, rfl, by decide, by decide⟩
  -- A number begins with its sign or a digit, and neither is a space or a bracket.
  | number sound =>
    obtain ⟨first, rest, spelled, rfl | ⟨digit, rfl⟩⟩ := sound.toChars_eq_cons
    · exact ⟨'-', rest, by rw [print, spelled], by decide, by decide⟩
    · have solid : ∀ digit : Digit, isSpace digit.toChar = false ∧ digit.toChar ≠ ']' := by decide
      exact ⟨digit.toChar, rest, by rw [print, spelled], solid digit⟩
  | string chars => exact ⟨'"', _, by rw [print, quoted]; rfl, by decide, by decide⟩
  -- Arrays begin with a bracket, with items or without, and it is the opening one.
  | @array items each =>
    cases items with
    | nil => exact ⟨'[', _, by rw [print], by decide, by decide⟩
    | cons => exact ⟨'[', _, by simp only [print, List.cons_append]; rfl, by decide, by decide⟩
  | @object members names each =>
    cases members with
    | nil => exact ⟨'\x7b', _, by rw [print], by decide, by decide⟩
    | cons => exact ⟨'\x7b', _, by simp only [print, List.cons_append]; rfl, by decide, by decide⟩

/-- Nothing is skipped in front of a document. -/
theorem Sound.skipSpaces_print {document : Json} (sound : document.Sound) (layout : Layout)
    (rest : List Char) :
    skipSpaces (document.print layout ++ rest) = document.print layout ++ rest := by
  -- The first character is no space, so that skipping ends before it.
  obtain ⟨first, more, spelled, solid, _⟩ := sound.print_eq_cons layout
  rw [spelled]
  exact skipSpaces_cons solid _

/-- A document is read from its text, however that is laid out and whatever comes after it. -/
def ReadsBack (document : Json) : Prop :=
  ∀ layout budget text rest, 2 * (document.print layout).length ≤ budget → Numeral.Ends rest →
    skipSpaces text = document.print layout ++ rest →
    readValue budget text = some (document, rest)

/-- What closes an array or an object ends a numeral in front of it. -/
theorem ends_lead (layout : Layout) {char : Char}
    (plain : Digit.ofChar? char = none ∧ char ≠ '.' ∧ char ≠ 'e' ∧ char ≠ 'E') (rest : List Char) :
    Numeral.Ends (layout.lead ++ char :: rest) := by
  -- What comes first is a line break in one layout and the character itself in the other.
  cases layout with
  | compact => exact Numeral.ends_cons plain rest
  | indented depth => exact Numeral.ends_cons (by decide) _

section Scalars

/-- No value reads back. -/
theorem readsBack_null : ReadsBack .null := by
  intro layout budget text rest enough _ spelled
  -- The text has characters, so that the budget is never used up before it.
  cases budget with
  | zero => simp [print] at enough
  | succ budget => simp [readValue, spelled, print, afterWord]

/-- A truth value reads back. -/
theorem readsBack_bool (value : Bool) : ReadsBack (.bool value) := by
  -- The first letter tells the two values apart, and the other letters follow it.
  intro layout budget text rest enough _ spelled
  cases budget with
  | zero => cases value <;> simp [print, boolChars] at enough
  | succ budget => cases value <;> simp [readValue, spelled, print, boolChars, afterWord]

/-- A number reads back, since what comes after it does not go on with it. -/
theorem readsBack_number {numeral : Numeral} (sound : numeral.Sound) :
    ReadsBack (.number numeral) := by
  intro layout budget text rest enough ends spelled
  obtain ⟨first, more, begins, starts⟩ := sound.toChars_eq_cons
  rw [print] at spelled enough
  have read := Numeral.read_toChars sound ends
  rw [begins, List.cons_append] at spelled read
  -- What a numeral begins with begins no other document.
  have plain : first ∉ ['"', '[', '\x7b', 'n', 't', 'f'] := by
    rcases starts with rfl | ⟨digit, rfl⟩
    · decide
    · have each : ∀ digit : Digit, digit.toChar ∉ ['"', '[', '\x7b', 'n', 't', 'f'] := by decide
      exact each digit
  cases budget with
  | zero => simp [begins] at enough
  | succ budget =>
    simp only [List.mem_cons, List.not_mem_nil, or_false, not_or] at plain
    obtain ⟨quote, bracket, brace, letterN, letterT, letterF⟩ := plain
    -- The reader tries every other kind of document first, by the first character.
    rw [readValue, spelled]
    split
    · next same => cases same
    · next same => exact absurd (List.cons.inj same).1 quote
    · next same => exact absurd (List.cons.inj same).1 bracket
    · next same => exact absurd (List.cons.inj same).1 brace
    · next same => exact absurd (List.cons.inj same).1 letterN
    · next same => exact absurd (List.cons.inj same).1 letterT
    · next same => exact absurd (List.cons.inj same).1 letterF
    · rw [read]
      rfl

/-- A string of characters reads back. -/
theorem readsBack_string (chars : List Char) : ReadsBack (.string (chars.map .char)) := by
  -- The quote in front sends the reader to the string, whose characters are read up to the other
  -- quote.
  intro layout budget text rest enough _ spelled
  rw [print, quoted_chars] at spelled
  cases budget with
  | zero => simp [print, quoted] at enough
  | succ budget =>
    simp only [readValue, spelled, readString_escaped]
    rfl

end Scalars

section Arrays

variable {items : List Json}

/-- A comma or the closing bracket ends a numeral in front of it. -/
theorem ends_printItems (layout outer : Layout) (items : List Json) (rest : List Char) :
    Numeral.Ends (printItems layout items ++ (outer.lead ++ ']' :: rest)) := by
  -- Without an item, the bracket comes behind the line break, and with one its comma comes first.
  cases items with
  | nil => exact ends_lead outer (by decide) rest
  | cons => exact Numeral.ends_cons (by decide) _

/-- The items after the first are read, up to the closing bracket. -/
theorem readItems_print (sound : ∀ item ∈ items, item.Sound)
    (each : ∀ item ∈ items, item.ReadsBack) (layout outer : Layout) (budget : Nat)
    (rest : List Char) (enough : 2 * (printItems layout items).length + 2 ≤ budget) :
    readItems budget (printItems layout items ++ (outer.lead ++ ']' :: rest))
      = some (items, rest) := by
  -- Each item takes a step, and its comma has paid for it.
  induction items generalizing budget with
  | nil =>
    -- A step is left for the bracket.
    obtain ⟨budget, rfl⟩ : ∃ steps, budget = steps + 1 := ⟨budget - 1, by omega⟩
    have close : skipSpaces (outer.lead ++ ']' :: rest) = ']' :: rest := by
      rw [skipSpaces_lead, skipSpaces_cons (by decide)]
    rw [printItems, List.nil_append]
    simp only [readItems, close]
  | cons item items ih =>
    obtain ⟨itemSound, othersSound⟩ := List.forall_mem_cons.mp sound
    -- The budget covers the text of the first item and that of all others.
    obtain ⟨itemBack, othersBack⟩ := List.forall_mem_cons.mp each
    simp only [printItems, List.length_cons, List.length_append, List.cons_append] at enough
    obtain ⟨budget, rfl⟩ : ∃ steps, budget = steps + 1 := ⟨budget - 1, by omega⟩
    -- The item is followed by a comma or the bracket, so that a number at its end is complete.
    have ends := ends_printItems layout outer items rest
    have own := itemBack layout budget (layout.lead ++ (item.print layout
      ++ (printItems layout items ++ (outer.lead ++ ']' :: rest)))) _ (by omega) ends
      (by rw [skipSpaces_lead, itemSound.skipSpaces_print])
    -- The others are read from what the first item leaves, with the budget that it leaves.
    have others := ih othersSound othersBack budget (by omega)
    simp only [printItems, List.cons_append, List.append_assoc, readItems,
      skipSpaces_cons (show isSpace ',' = false by decide), own, Option.bind_eq_bind,
      Option.bind_some, others]
    rfl

/-- An array reads back when every item of it does. -/
theorem readsBack_array (sound : ∀ item ∈ items, item.Sound)
    (each : ∀ item ∈ items, item.ReadsBack) : ReadsBack (.array items) := by
  intro layout budget text rest enough _ spelled
  -- An empty array is its two brackets, and any other one begins with an item.
  cases items with
  | nil =>
    rw [print] at spelled enough
    obtain ⟨budget, rfl⟩ : ∃ steps, budget = steps + 1 := ⟨budget - 1, by simp at enough; omega⟩
    have close : skipSpaces (']' :: rest) = ']' :: rest := skipSpaces_cons (by decide) rest
    simp only [readValue, spelled, List.cons_append, List.nil_append, close]
  | cons item items =>
    -- The first item stands right behind the bracket, and the others behind their commas.
    obtain ⟨itemSound, othersSound⟩ := List.forall_mem_cons.mp sound
    obtain ⟨itemBack, othersBack⟩ := List.forall_mem_cons.mp each
    simp only [print, List.length_cons, List.length_append, List.length_nil] at enough
    obtain ⟨budget, rfl⟩ : ∃ steps, budget = steps + 1 := ⟨budget - 1, by omega⟩
    obtain ⟨first, more, begins, _, another⟩ := itemSound.print_eq_cons layout.inner
    simp only [print, List.cons_append, List.append_assoc, List.nil_append] at spelled
    -- What follows the first item is read by the lemma for the others, up to the bracket.
    have others := readItems_print othersSound othersBack layout.inner layout budget rest (by omega)
    have ends := ends_printItems layout.inner layout items rest
    have own := itemBack layout.inner budget (item.print layout.inner
      ++ (printItems layout.inner items ++ (layout.lead ++ ']' :: rest))) _ (by omega) ends
      (itemSound.skipSpaces_print _ _)
    have inside := itemSound.skipSpaces_print layout.inner
      (printItems layout.inner items ++ (layout.lead ++ ']' :: rest))
    simp only [readValue, spelled, skipSpaces_lead, inside]
    -- What begins the first item is not the closing bracket.
    rw [begins, List.cons_append] at own ⊢
    split
    · next same => exact absurd (List.cons.inj same).1 another
    · simp only [own, Option.bind_eq_bind, Option.bind_some, others]
      rfl

end Arrays

section Objects

variable {members : List (List StringPart × Json)}

/-- A comma or the closing brace ends a numeral in front of it. -/
theorem ends_printMembers (layout outer : Layout) (members : List (List StringPart × Json))
    (rest : List Char) :
    Numeral.Ends (printMembers layout members ++ (outer.lead ++ '\x7d' :: rest)) := by
  -- Without a member, the brace comes behind the line break, and with one its comma comes first.
  cases members with
  | nil => exact ends_lead outer (by decide) rest
  | cons => exact Numeral.ends_cons (by decide) _

/-- A name and its value are read. -/
theorem readMember_print {value : Json} (back : value.ReadsBack) (sound : value.Sound)
    (chars : List Char) (outer layout : Layout) {budget : Nat} {text rest : List Char}
    (ends : Numeral.Ends rest)
    (enough : 2 * ((quoted (chars.map .char)).length + (value.print layout).length) ≤ budget)
    (spelled : skipSpaces text
      = quoted (chars.map .char) ++ (outer.colon ++ (value.print layout ++ rest))) :
    readMember budget text = some ((chars.map .char, value), rest) := by
  have quotes : 2 ≤ (quoted (chars.map .char)).length := by simp [quoted]
  obtain ⟨budget, rfl⟩ : ∃ steps, budget = steps + 1 := ⟨budget - 1, by omega⟩
  rw [quoted_chars] at spelled
  -- Behind the colon, there is a space at most before the value.
  obtain ⟨blank, colon, skipped⟩ : ∃ blank, outer.colon = ':' :: blank ∧
      skipSpaces (blank ++ (value.print layout ++ rest)) = value.print layout ++ rest := by
    cases outer with
    | compact => exact ⟨[], rfl, sound.skipSpaces_print _ _⟩
    | indented depth => exact ⟨[' '], rfl, sound.skipSpaces_print _ _⟩
  -- The value is read where the space ends, and it leaves the rest.
  have own := back layout budget _ rest (by omega) ends skipped
  simp only [readMember, spelled, readString_escaped, colon, List.cons_append,
    skipSpaces_cons (show isSpace ':' = false by decide), Option.bind_eq_bind, Option.bind_some,
    own]
  rfl

/-- The members after the first are read, up to the closing brace. -/
theorem readMembers_print
    (names : ∀ member ∈ members, ∃ chars : List Char, member.1 = chars.map .char)
    (sound : ∀ member ∈ members, member.2.Sound) (each : ∀ member ∈ members, member.2.ReadsBack)
    (layout outer : Layout) (budget : Nat) (rest : List Char)
    (enough : 2 * (printMembers layout members).length + 2 ≤ budget) :
    readMembers budget (printMembers layout members ++ (outer.lead ++ '\x7d' :: rest))
      = some (members, rest) := by
  -- Each member takes a step, and its comma has paid for it.
  induction members generalizing budget with
  | nil =>
    -- A step is left for the brace.
    obtain ⟨budget, rfl⟩ : ∃ steps, budget = steps + 1 := ⟨budget - 1, by omega⟩
    have close : skipSpaces (outer.lead ++ '\x7d' :: rest) = '\x7d' :: rest := by
      rw [skipSpaces_lead, skipSpaces_cons (by decide)]
    rw [printMembers, List.nil_append]
    simp only [readMembers, close]
  | cons member members ih =>
    -- The name has only characters and the value reads back, as for all members.
    obtain ⟨name, value⟩ := member
    obtain ⟨⟨chars, named⟩, othersNames⟩ := List.forall_mem_cons.mp names
    obtain ⟨(valueSound : value.Sound), othersSound⟩ := List.forall_mem_cons.mp sound
    obtain ⟨(valueBack : value.ReadsBack), othersBack⟩ := List.forall_mem_cons.mp each
    obtain rfl : name = chars.map .char := named
    simp only [printMembers, List.length_cons, List.length_append, List.cons_append] at enough
    obtain ⟨budget, rfl⟩ : ∃ steps, budget = steps + 1 := ⟨budget - 1, by omega⟩
    -- The value is followed by a comma or the brace, so that a number at its end is complete.
    have ends := ends_printMembers layout outer members rest
    have own : readMember budget (layout.lead ++ (quoted (chars.map .char) ++ (layout.colon
        ++ (value.print layout ++ (printMembers layout members
          ++ (outer.lead ++ '\x7d' :: rest))))))
        = some ((chars.map .char, value),
          printMembers layout members ++ (outer.lead ++ '\x7d' :: rest)) := by
      refine readMember_print valueBack valueSound chars layout layout ends (by omega) ?_
      rw [skipSpaces_lead, quoted_chars, skipSpaces_cons (by decide)]
    -- The other members are read from what this one leaves.
    have others := ih othersNames othersSound othersBack budget (by omega)
    simp only [printMembers, List.cons_append, List.append_assoc, readMembers,
      skipSpaces_cons (show isSpace ',' = false by decide), own, Option.bind_eq_bind,
      Option.bind_some, others]
    rfl

/-- An object reads back when every value in it does. -/
theorem readsBack_object
    (names : ∀ member ∈ members, ∃ chars : List Char, member.1 = chars.map .char)
    (sound : ∀ member ∈ members, member.2.Sound)
    (each : ∀ member ∈ members, member.2.ReadsBack) : ReadsBack (.object members) := by
  intro layout budget text rest enough _ spelled
  -- An empty object is its two braces, and any other one begins with a name.
  cases members with
  | nil =>
    rw [print] at spelled enough
    obtain ⟨budget, rfl⟩ : ∃ steps, budget = steps + 1 := ⟨budget - 1, by simp at enough; omega⟩
    have close : skipSpaces ('\x7d' :: rest) = '\x7d' :: rest := skipSpaces_cons (by decide) rest
    simp only [readValue, spelled, List.cons_append, List.nil_append, close]
  | cons member members =>
    -- The first member stands right behind the brace, and the others behind their commas.
    obtain ⟨name, value⟩ := member
    obtain ⟨⟨chars, named⟩, othersNames⟩ := List.forall_mem_cons.mp names
    obtain ⟨(valueSound : value.Sound), othersSound⟩ := List.forall_mem_cons.mp sound
    obtain ⟨(valueBack : value.ReadsBack), othersBack⟩ := List.forall_mem_cons.mp each
    obtain rfl : name = chars.map .char := named
    simp only [print, List.length_cons, List.length_append, List.length_nil] at enough
    obtain ⟨budget, rfl⟩ : ∃ steps, budget = steps + 1 := ⟨budget - 1, by omega⟩
    simp only [print, List.cons_append, List.append_assoc, List.nil_append] at spelled
    -- What follows the first member is read by the lemma for the others, up to the brace.
    have others := readMembers_print othersNames othersSound othersBack layout.inner layout budget
      rest (by omega)
    have ends := ends_printMembers layout.inner layout members rest
    have own : readMember budget (quoted (chars.map .char) ++ (layout.colon
        ++ (value.print layout.inner ++ (printMembers layout.inner members
          ++ (layout.lead ++ '\x7d' :: rest)))))
        = some ((chars.map .char, value),
          printMembers layout.inner members ++ (layout.lead ++ '\x7d' :: rest)) := by
      refine readMember_print valueBack valueSound chars layout layout.inner ends (by omega) ?_
      rw [quoted_chars, skipSpaces_cons (by decide)]
    -- What begins the first name is not the closing brace.
    rw [quoted_chars] at own
    simp only [readValue, spelled, skipSpaces_lead, quoted_chars,
      skipSpaces_cons (show isSpace '"' = false by decide)]
    split
    · next same => exact absurd (List.cons.inj same).1 (by decide)
    · simp only [own, Option.bind_eq_bind, Option.bind_some, others]
      rfl

end Objects

/-- Every document of characters and numbers that follow the grammar reads back. -/
theorem Sound.readsBack {document : Json} (sound : document.Sound) : document.ReadsBack := by
  -- Every kind of document has its lemma, with what is inside read back already.
  induction sound with
  | null => exact readsBack_null
  | bool value => exact readsBack_bool value
  | number sound => exact readsBack_number sound
  | string chars => exact readsBack_string chars
  | array each back => exact readsBack_array each back
  | object names each back => exact readsBack_object names each back

/-- The text of a document is read as the document, in either layout. -/
theorem Sound.read_print {document : Json} (sound : document.Sound) (layout : Layout) :
    read (document.print layout) = some document := by
  -- The budget is made for the text, nothing comes behind it, and there is no space in front.
  have whole := sound.readsBack layout (2 * (document.print layout).length + 2)
    (document.print layout) [] (Nat.le_add_right _ 2) Numeral.ends_nil
    (by rw [← sound.skipSpaces_print layout [], List.append_nil])
  rw [read, whole]
  rfl

end Json

end BmcTelemetry
