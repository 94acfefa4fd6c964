import BmcTelemetry.Text.Blank
import Mathlib.Data.List.TakeWhile

/-! Trimming: what it keeps of a text, and what it takes away or never sees of one. -/

namespace BmcTelemetry.Text

/-- White space at the end of a text makes no difference. -/
theorem trim_append_blanks (chars : List Char) {blanks : List Char}
    (blank : ∀ char ∈ blanks, isBlank char = true) : trim (chars ++ blanks) = trim chars := by
  -- The front is dropped character by character, until one stays or nothing is left.
  unfold trim
  induction chars with
  | nil =>
    -- Without any other characters all of it is dropped at the front.
    rw [List.nil_append, List.dropWhile_eq_nil_iff.mpr blank]
    rfl
  | cons char rest ih =>
    by_cases first : isBlank char = true
    -- A blank in front is dropped on both sides, and the rest of the text decides.
    · rwa [List.cons_append, List.dropWhile_cons_of_pos first, List.dropWhile_cons_of_pos first]
    · -- Nothing is dropped at the front, and only the blanks are passed over at the end.
      have reversed : ∀ char ∈ blanks.reverse, isBlank char = true := fun char member =>
        blank char (List.mem_reverse.mp member)
      rw [List.cons_append, List.dropWhile_cons_of_neg first, List.dropWhile_cons_of_neg first,
        ← List.cons_append, List.reverse_append, List.dropWhile_append_of_pos reversed]

/-- White space in front of a text makes no difference. -/
theorem trim_blanks_append {blanks : List Char} (blank : ∀ char ∈ blanks, isBlank char = true)
    (chars : List Char) : trim (blanks ++ chars) = trim chars := by
  -- The blanks are dropped along with those that the text begins with.
  rw [trim, List.dropWhile_append_of_pos blank, trim]

/-- Nothing but white space is trimmed to nothing. -/
theorem trim_of_blank {blanks : List Char} (blank : ∀ char ∈ blanks, isBlank char = true) :
    trim blanks = [] := by
  -- All of it is dropped at the front, so that nothing is left to look at from the end.
  rw [trim, List.dropWhile_eq_nil_iff.mpr blank]
  rfl

/-- What trimming takes away is white space in front and at the end. -/
theorem exists_around_trim (chars : List Char) :
    ∃ before after, (∀ char ∈ before, isBlank char = true) ∧
      (∀ char ∈ after, isBlank char = true) ∧ chars = before ++ trim chars ++ after := by
  -- What is taken away are the two runs of blanks that dropping passes over.
  let inner := chars.dropWhile isBlank
  refine ⟨chars.takeWhile isBlank, (inner.reverse.takeWhile isBlank).reverse,
    fun _ => List.mem_takeWhile_imp,
    fun _ member => List.mem_takeWhile_imp (List.mem_reverse.mp member), ?_⟩
  -- The end is dropped from the reversed text, so both parts of it are reversed back.
  rw [trim, List.append_assoc, ← List.reverse_append, List.takeWhile_append_dropWhile,
    List.reverse_reverse, List.takeWhile_append_dropWhile]

/-- There is no white space at either end of a text. -/
structure Trimmed (chars : List Char) : Prop where
  /-- The first character is no white space. -/
  front : ∀ char, chars.head? = some char → isBlank char = false
  /-- The last character is no white space. -/
  back : ∀ char, chars.getLast? = some char → isBlank char = false

/-- What is left when white space is dropped does not begin with any. -/
theorem head?_dropWhile_solid {chars : List Char} {char : Char}
    (first : (chars.dropWhile isBlank).head? = some char) : isBlank char = false := by
  -- The predicate that ended the dropping is false of the first character that was kept.
  have solid := List.head?_dropWhile_not isBlank chars
  rwa [first] at solid

/-- Nothing is dropped from a text that does not begin with white space. -/
theorem dropWhile_eq_self_of_solid {chars : List Char}
    (solid : ∀ char, chars.head? = some char → isBlank char = false) :
    chars.dropWhile isBlank = chars := by
  -- Dropping looks at the first character alone before it stops.
  cases chars with
  | nil => rfl
  | cons char rest => rw [List.dropWhile_cons_of_neg (by simp [solid char rfl])]

/-- Trimming leaves no white space at either end. -/
theorem trimmed_trim (chars : List Char) : Trimmed (trim chars) where
  front char first := by
    -- The end is dropped from the reversed text, which leaves a front part of the text.
    obtain ⟨after, kept⟩ := List.dropWhile_suffix (l := (chars.dropWhile isBlank).reverse) isBlank
    have whole : chars.dropWhile isBlank = trim chars ++ after.reverse := by
      rw [trim, ← List.reverse_append, kept, List.reverse_reverse]
    -- What is dropped at the end stands behind the first character, if there is one left.
    have begun : (chars.dropWhile isBlank).head? = some char := by
      rw [whole, List.head?_append, first]
      rfl
    exact head?_dropWhile_solid begun
  back char last := by
    -- The last character is the first one of the reversed text, where the blanks were dropped last.
    rw [trim, List.getLast?_reverse] at last
    exact head?_dropWhile_solid last

/-- A text without white space at either end is left as it is. -/
theorem Trimmed.trim_eq {chars : List Char} (trimmed : Trimmed chars) : trim chars = chars := by
  -- Seen from the end, the last character is the first one, and it is no blank either.
  have back : ∀ char, chars.reverse.head? = some char → isBlank char = false := by
    intro char last
    rw [List.head?_reverse] at last
    exact trimmed.back char last
  rw [trim, dropWhile_eq_self_of_solid trimmed.front, dropWhile_eq_self_of_solid back,
    List.reverse_reverse]

/-- Trimming adds no character. -/
theorem mem_of_mem_trim {chars : List Char} {char : Char} (member : char ∈ trim chars) :
    char ∈ chars := by
  -- Dropping leaves a suffix, on the reversed text as well as on the text itself.
  have inner := (List.dropWhile_suffix isBlank).subset (List.mem_reverse.mp member)
  exact (List.dropWhile_suffix isBlank).subset (List.mem_reverse.mp inner)

/-- A character that is no white space survives when others are dropped at the front. -/
theorem mem_dropWhile_of_solid {chars : List Char} {char : Char} (solid : isBlank char = false)
    (member : char ∈ chars) : char ∈ chars.dropWhile isBlank := by
  -- The text is what was dropped followed by what was kept.
  rw [← List.takeWhile_append_dropWhile (p := isBlank) (l := chars)] at member
  rcases List.mem_append.mp member with dropped | kept
  -- What was dropped is blank, which the character is not.
  · have blank := List.mem_takeWhile_imp dropped
    rw [solid] at blank
    cases blank
  · exact kept

/-- Trimming keeps every character that is no white space. -/
theorem mem_trim_of_solid {chars : List Char} {char : Char} (solid : isBlank char = false)
    (member : char ∈ chars) : char ∈ trim chars := by
  -- The character survives the dropping at the front, and the same dropping on the reversed text.
  apply List.mem_reverse.mpr
  apply mem_dropWhile_of_solid solid
  apply List.mem_reverse.mpr
  exact mem_dropWhile_of_solid solid member

end BmcTelemetry.Text
