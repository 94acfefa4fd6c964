import BmcTelemetry.Proofs.Tool.Requests

/-!
Encoding requests for the tool, and reading what it prints: each can be undone.

Bytes are read back from two digits each, however the digits are set. What the tool is told for a
request tells the bytes of the request, and where they go.
-/

namespace BmcTelemetry

namespace Text

/-- Words are laid out in a text, with white space between them, and any around them. -/
inductive LaidOut : List (List Char) → List Char → Prop
  /-- White space holds no words. -/
  | blanks {gap : List Char} (blank : ∀ char ∈ gap, isBlank char = true) : LaidOut [] gap
  /-- A word may stand behind white space, and the text ends or goes on with white space. -/
  | word {word gap text : List Char} {rest : List (List Char)}
      (blank : ∀ char ∈ gap, isBlank char = true) (bounded : Bounded text)
      (onward : LaidOut rest text) : LaidOut (word :: rest) (gap ++ word ++ text)

/-- White space in front of words leaves them laid out. -/
theorem LaidOut.indent {words : List (List Char)} {text gap : List Char}
    (laid : LaidOut words text) (blank : ∀ char ∈ gap, isBlank char = true) :
    LaidOut words (gap ++ text) := by
  -- The white space joins that in front of the first word, or the rest of it.
  cases laid with
  | blanks others => exact .blanks (List.forall_mem_append.mpr ⟨blank, others⟩)
  | @word word own text rest others bounded onward =>
    rw [← List.append_assoc, ← List.append_assoc]
    exact .word (List.forall_mem_append.mpr ⟨blank, others⟩) bounded onward

/-- Words are laid out with the same white space between any two of them. -/
theorem laidOut_intercalate {gap : List Char} (nonempty : gap ≠ [])
    (blank : ∀ char ∈ gap, isBlank char = true) (words : List (List Char)) :
    LaidOut words (gap.intercalate words) := by
  have nothing : ∀ char ∈ ([] : List Char), isBlank char = true := by simp
  -- Each word but the last is followed by the gap.
  induction words with
  | nil => exact .blanks nothing
  | cons word rest ih =>
    cases rest with
    -- The last word stands alone, and nothing comes after it.
    | nil =>
      have ended : Bounded [] := by simp [Bounded]
      have alone : LaidOut [word] ([] ++ word ++ []) := .word nothing ended (.blanks nothing)
      simpa using alone
    | cons next others =>
      rw [List.intercalate_cons_cons, List.append_assoc]
      refine .word nothing (fun char first => ?_) (ih.indent blank)
      -- What follows the word begins with the white space.
      obtain ⟨begins, more, rfl⟩ := List.exists_cons_of_ne_nil nonempty
      obtain rfl := Option.some.inj first
      exact blank begins List.mem_cons_self

end Text

namespace Tool

/-- Tokens that spell bytes and are laid out in a text spell the bytes by the text. -/
theorem spells_of_laidOut {tokens : List (List Char)} {text : List Char}
    (laid : Text.LaidOut tokens text) {bytes : Bytes}
    (each : List.Forall₂ SpellsByte bytes tokens) : Spells bytes text := by
  -- The layout and the list of bytes go on together, one word for each byte.
  induction laid generalizing bytes with
  | blanks blank =>
    cases each
    exact .blanks blank
  | word blank bounded onward ih =>
    cases each with
    | cons first others => exact .token blank first bounded (ih others)

/-- Bytes that are written with their marks are spelled by what is written. -/
theorem spells_markedBytes (bytes : Bytes) :
    List.Forall₂ SpellsByte bytes ((bytes.map Hex.markedByte).map String.toList) := by
  -- The two lists have the same length, and are compared place by place.
  rw [List.forall₂_map_right_iff, List.forall₂_map_right_iff, List.forall₂_same]
  exact fun byte _ => spellsByte_markedByte byte

variable {tool : Tool} {bridged : Bool} {one other : Request}

/-- Requests that are not bridged go to the controller, and others to their bridging targets. -/
theorem destination_eq_iff :
    tool.destination bridged one = tool.destination bridged other ↔
      (bridged = true → tool.bridgeFor one = tool.bridgeFor other) := by
  -- Unbridged, every request goes to the controller.
  cases bridged with
  | false => simp [destination]
  | true =>
    simp only [destination, if_true, forall_const]
    -- A target is told by its channel and its slave, and none by the controller.
    rcases tool.bridgeFor one with _ | ⟨channel, slave⟩ <;>
      rcases tool.bridgeFor other with _ | ⟨otherChannel, otherSlave⟩ <;> simp

/--
Encoding requests for the tool and reading what it prints can both be undone.

Bytes are read from any layout of their two-digit tokens, such as what stands behind the first word
of the arguments for a request. With one tool, two requests have the same arguments exactly when
they have the same bytes and, if bridged, the same target.
-/
theorem arguments_read_back (tool : Tool) :
    (∀ (bytes : Bytes) (tokens : List (List Char)) (text : List Char),
      List.Forall₂ SpellsByte bytes tokens → Text.LaidOut tokens text →
        parseOutput text = 0x00 :: bytes) ∧
    (∀ request : Request, ∃ tokens, tool.rawArguments false request = "raw" :: tokens ∧
      ∀ text, Text.LaidOut (tokens.map String.toList) text →
        parseOutput text = 0x00 :: request.data) ∧
    ∀ (bridged : Bool) (one other : Request),
      tool.rawArguments bridged one = tool.rawArguments bridged other ↔
        one.data = other.data ∧ (bridged = true → tool.bridgeFor one = tool.bridgeFor other) := by
  refine ⟨fun bytes tokens text each laid => parseOutput_of_spells (spells_of_laidOut laid each),
    fun request => ⟨request.data.map Hex.markedByte, rfl, fun text laid => ?_⟩,
    fun bridged one other => ?_⟩
  -- The tokens for a request spell its bytes in one of the two ways.
  · exact parseOutput_of_spells (spells_of_laidOut laid (spells_markedBytes request.data))
  -- The arguments are the destination and the bytes, and nothing else.
  · rw [rawArguments_eq_iff, destination_eq_iff, and_comm]

/-- Two bytes in either letter case, one of them marked, and a request with its bytes set apart. -/
theorem arguments_read_back_spaced :
    parseOutput ['\t', '0', 'x', '1', 'F', '\u3000', '\n', 'a', 'C', '\u2028']
        = [0x00, 0x1f, 0xac] ∧
      parseOutput (['\t', '\u00a0'].intercalate
        (((Tool.mk "ipmitool" ⟨6, 0x2c⟩).rawArguments false (.direct [0x06, 0x01])).tail.map
          String.toList)) = [0x00, 0x06, 0x01] := by
  obtain ⟨reads, sends, _⟩ := arguments_read_back (Tool.mk "ipmitool" ⟨6, 0x2c⟩)
  constructor
  -- The first layout is taken apart word by word, with the gaps around each.
  · have laid : Text.LaidOut [['0', 'x', '1', 'F'], ['a', 'C']]
        (['\t'] ++ ['0', 'x', '1', 'F'] ++ (['\u3000', '\n'] ++ ['a', 'C'] ++ ['\u2028'])) := by
      refine .word (List.all_eq_true.mp rfl) (fun char first => ?_)
        (.word (List.all_eq_true.mp rfl) (fun char first => ?_)
          (.blanks (List.all_eq_true.mp rfl)))
      -- What comes behind a word begins with a blank, each time another one.
      · obtain rfl := Option.some.inj first
        rfl
      · obtain rfl := Option.some.inj first
        rfl
    refine reads [0x1f, 0xac] _ _ (.cons ?_ (.cons ?_ .nil)) laid
    · exact ⟨'1', 'F', by decide, by decide, .inr rfl⟩
    · exact ⟨'a', 'C', by decide, by decide, .inl rfl⟩
  -- The second layout is the tokens of a request, with a gap of two blanks.
  · obtain ⟨tokens, same, each⟩ := sends (.direct [0x06, 0x01])
    rw [same]
    exact each _ (Text.laidOut_intercalate (by decide) (List.all_eq_true.mp rfl) _)

end Tool

end BmcTelemetry
