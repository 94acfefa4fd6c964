import BmcTelemetry.Text.Blank

/-! Pieces between separators: how a text is cut, and that joining the pieces undoes it. -/

namespace BmcTelemetry.Text

/-- A separator in front begins an empty piece. -/
theorem pieces_separator {separates : Char → Bool} {char : Char} (blank : separates char = true)
    (rest : List Char) : pieces separates (char :: rest) = [] :: pieces separates rest := by
  rw [pieces, if_pos blank]

/-- Characters that separate nothing belong to the piece that follows them. -/
theorem pieces_append {separates : Char → Bool} {token : List Char}
    (solid : ∀ char ∈ token, separates char = false) {text : List Char} {first : List Char}
    {others : List (List Char)} (cut : pieces separates text = first :: others) :
    pieces separates (token ++ text) = (token ++ first) :: others := by
  -- Each character in front joins the first piece.
  induction token with
  | nil => exact cut
  | cons char rest ih =>
    -- The characters behind it separate nothing either, so that they already stand in the first
    -- piece.
    have onward := ih fun other member => solid other (List.mem_cons_of_mem _ member)
    have joins := solid char (by simp)
    simp [pieces, joins, onward]

/-- Pieces are those that a list is split into at its separators. -/
theorem pieces_eq_splitOnP (separates : Char → Bool) (chars : List Char) :
    pieces separates chars = chars.splitOnP separates := by
  -- Both cut from the front, one character at a time.
  induction chars with
  | nil => rfl
  | cons char rest ih =>
    rw [pieces, List.splitOnP_cons_eq_if_modifyHead, ih]
    -- Both put a character that separates nothing in front of the first piece.
    split
    · rfl
    -- There always is a first piece for the character to join.
    · obtain ⟨first, others, cut⟩ :=
        List.exists_cons_of_ne_nil (List.splitOnP_ne_nil separates rest)
      rw [cut]
      rfl

/-- Pieces that are joined by a character are found again, if it is in none of them. -/
theorem pieces_intercalate {joint : Char} {parts : List (List Char)} (nonempty : parts ≠ [])
    (without : ∀ part ∈ parts, joint ∉ part) :
    pieces (· == joint) ([joint].intercalate parts) = parts := by
  -- Splitting at one character undoes the joining, as no part has the character in it.
  rw [pieces_eq_splitOnP, ← List.splitOn_eq_splitOnP, List.splitOn_intercalate joint without
    nonempty]

/-- The pieces of a text give it back when they are joined. -/
theorem intercalate_pieces (joint : Char) (chars : List Char) :
    [joint].intercalate (pieces (· == joint) chars) = chars := by
  rw [pieces_eq_splitOnP, ← List.splitOn_eq_splitOnP, List.intercalate_splitOn]

/-- No piece has a separator in it. -/
theorem not_separates_of_mem_pieces {separates : Char → Bool} {chars piece : List Char}
    (member : piece ∈ pieces separates chars) {char : Char} (inside : char ∈ piece) :
    separates char = false := by
  -- A piece is known by the character that the text begins with, which may have cut or joined it.
  induction chars generalizing piece with
  | nil =>
    obtain rfl := List.mem_singleton.mp member
    cases inside
  | cons first rest ih =>
    rw [pieces] at member
    split at member
    · -- A separator ends an empty piece.
      rcases List.mem_cons.mp member with rfl | later
      -- An empty piece has no character in it.
      · cases inside
      · exact ih later inside
    · next solid =>
      -- Any other character joins the first piece of the rest, and leaves the others alone.
      split at member
      -- The character is all of the text, so that it is the one piece.
      · obtain rfl := List.mem_singleton.mp member
        rw [List.mem_singleton.mp inside]
        exact Bool.eq_false_iff.mpr solid
      · next begun others cut =>
        -- The first piece begins with the character, and what follows in it comes from the rest.
        rcases List.mem_cons.mp member with rfl | later
        · rcases List.mem_cons.mp inside with rfl | further
          · exact Bool.eq_false_iff.mpr solid
          · exact ih (by rw [cut]; exact List.mem_cons_self) further
        -- The other pieces are the rest's own.
        · exact ih (by rw [cut]; exact List.mem_cons_of_mem _ later) inside

end BmcTelemetry.Text
