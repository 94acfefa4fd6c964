import BmcTelemetry.Proofs.Config.Loading
import BmcTelemetry.Proofs.Config.Saving
import BmcTelemetry.Proofs.Text.Blank
import BmcTelemetry.Proofs.Text.Pieces

/-!
The layers of a configuration: the defaults, the file over them, and the environment over both.

The environment replaces the hosts, the user and the password, each on its own. The hosts come from
a text that lists them, and whichever way they are listed, they are found in order.
-/

namespace BmcTelemetry

/-- A text has nothing but white space. -/
def Text.Blank (text : String) : Prop :=
  ∀ char ∈ text.toList, isBlank char = true

/-- A name that can be listed: there is one, without commas, and without white space around it. -/
structure HostName (name : String) : Prop where
  /-- There is a character at least. -/
  nonempty : name.toList ≠ []
  /-- A comma would end the name. -/
  undivided : ',' ∉ name.toList
  /-- White space around the name would not count. -/
  trimmed : Text.Trimmed name.toList

namespace Overrides

/-- Segments that carry names, each in one of its own; the others are blank. -/
inductive Carry : List String → List String → Prop
  /-- No segments carry no names. -/
  | nil : Carry [] []
  /-- A blank segment, which may be empty, carries none. -/
  | blank {names segments : List String} {segment : String} (blank : Text.Blank segment)
      (onward : Carry names segments) : Carry names (segment :: segments)
  /-- A name may have white space around it. -/
  | name {names segments : List String} {before after : String} (name : String)
      (front : Text.Blank before) (back : Text.Blank after) (onward : Carry names segments) :
      Carry (name :: names) ((before ++ name ++ after) :: segments)

/-- A text lists names: it is made of segments that carry them, with commas between. -/
def Lists (names : List String) (text : String) : Prop :=
  (∀ name ∈ names, HostName name) ∧
    ∃ segments, Carry names segments ∧ text = ",".intercalate segments

/-- The names in segments: what is left of those that are not blank. -/
def namesIn (segments : List (List Char)) : List String :=
  ((segments.map Text.trim).filter (!·.isEmpty)).map String.ofList

/-- The hosts in a text are the names in its segments between commas. -/
theorem hostList_eq_namesIn (text : String) :
    hostList text = namesIn (Text.pieces (· == ',') text.toList) := rfl

/-- No segment has a comma: names have none, and a comma is no white space. -/
theorem Carry.undivided {names segments : List String} (carry : Carry names segments)
    (proper : ∀ name ∈ names, HostName name) : ∀ segment ∈ segments, ',' ∉ segment.toList := by
  -- A comma is no white space, so that a blank text has none.
  have solid : ∀ {text : String}, Text.Blank text → ',' ∉ text.toList := fun blank comma =>
    absurd (blank _ comma) (by decide)
  -- A segment is blank, or a name with blanks around it, and a comma is in none of these.
  induction carry with
  | nil => simp
  | blank blank onward ih =>
    exact List.forall_mem_cons.mpr ⟨solid blank, ih proper⟩
  | name name front back onward ih =>
    obtain ⟨first, others⟩ := List.forall_mem_cons.mp proper
    refine List.forall_mem_cons.mpr ⟨?_, ih others⟩
    simp [solid front, solid back, first.undivided]

/-- The names that segments carry are found in them. -/
theorem Carry.namesIn_eq {names segments : List String} (carry : Carry names segments)
    (proper : ∀ name ∈ names, HostName name) : namesIn (segments.map String.toList) = names := by
  -- Each segment is trimmed by itself, and what is left of it decides whether it counts.
  induction carry with
  | nil => rfl
  | blank blank onward ih =>
    -- A blank segment is trimmed to nothing, which does not count.
    rw [namesIn, List.map_cons, List.map_cons, Text.trim_of_blank blank,
      List.filter_cons_of_neg (by simp)]
    exact ih proper
  | name name front back onward ih =>
    obtain ⟨first, others⟩ := List.forall_mem_cons.mp proper
    -- Trimming stops at the ends of the name, which are no white space.
    rw [namesIn, List.map_cons, List.map_cons, String.toList_append, String.toList_append,
      Text.trim_append_blanks _ back, Text.trim_blanks_append front, first.trimmed.trim_eq,
      List.filter_cons_of_pos (by simpa using first.nonempty), List.map_cons,
      String.ofList_toList]
    exact congrArg (name :: ·) (ih others)

/-- Any segments carry the names that are found in them. -/
theorem carry_namesIn (segments : List (List Char)) :
    Carry (namesIn segments) (segments.map String.ofList) := by
  -- Each segment is blank or carries a name, and the others follow by induction.
  induction segments with
  | nil => exact .nil
  | cons segment rest ih =>
    -- What trimming takes away is blank, which is what surrounds a name.
    obtain ⟨before, after, front, back, whole⟩ := Text.exists_around_trim segment
    have blankFront : Text.Blank (String.ofList before) := by
      rwa [Text.Blank, String.toList_ofList]
    have blankBack : Text.Blank (String.ofList after) := by
      rwa [Text.Blank, String.toList_ofList]
    rw [namesIn, List.map_cons, List.map_cons]
    by_cases empty : Text.trim segment = []
    · -- Nothing is left of a segment between its white space, so it is blank.
      rw [List.filter_cons_of_neg (by simp [empty])]
      refine .blank ?_ ih
      rw [empty, List.append_nil] at whole
      rw [Text.Blank, String.toList_ofList, whole]
      exact List.forall_mem_append.mpr ⟨front, back⟩
    · -- What is left of any other segment is a name, between white space of its own.
      rw [List.filter_cons_of_pos (by simpa using empty), List.map_cons]
      have carried := Carry.name (String.ofList (Text.trim segment)) blankFront blankBack ih
      rwa [← String.ofList_append, ← String.ofList_append, ← whole] at carried

/-- Every name that is found in a text can be listed. -/
theorem hostName_of_mem_hostList {text name : String} (member : name ∈ hostList text) :
    HostName name := by
  -- The name is what trimming left of a piece of the text, and there was something left.
  rw [hostList_eq_namesIn] at member
  obtain ⟨trimmed, found, rfl⟩ := List.mem_map.mp member
  obtain ⟨listed, nonempty⟩ := List.mem_filter.mp found
  obtain ⟨piece, cut, rfl⟩ := List.mem_map.mp listed
  refine ⟨?_, ?_, ?_⟩ <;> rw [String.toList_ofList]
  · simpa using nonempty
  · -- The piece has no comma, and trimming brings none in.
    intro comma
    have solid := Text.not_separates_of_mem_pieces cut (Text.mem_of_mem_trim comma)
    exact absurd solid (by decide)
  -- Trimming leaves no white space at the ends.
  · exact Text.trimmed_trim piece

/-- Every text lists the names that are found in it. -/
theorem lists_hostList (text : String) : Lists (hostList text) text := by
  -- The pieces carry the names, so that the text only has to be put together from the pieces.
  have carried := carry_namesIn (Text.pieces (· == ',') text.toList)
  rw [← hostList_eq_namesIn] at carried
  refine ⟨fun _ => hostName_of_mem_hostList, _, carried, ?_⟩
  rw [← String.toList_inj, String.toList_intercalate, List.map_map]
  -- The pieces are joined as lists of characters.
  have plain : String.toList ∘ String.ofList = id := funext fun _ => String.toList_ofList
  rw [plain, List.map_id]
  exact (Text.intercalate_pieces ',' text.toList).symm

/-- Listed names are found in order. -/
theorem hostList_of_lists {names : List String} {text : String} (lists : Lists names text) :
    hostList text = names := by
  obtain ⟨proper, segments, carry, rfl⟩ := lists
  cases segments with
  | nil =>
    -- Without segments there are no names, and the text is empty.
    cases carry
    rfl
  | cons segment rest =>
    let parts := (segment :: rest).map String.toList
    -- The joint is in none of the parts, so that the text is cut where it was joined.
    have undivided : ∀ part ∈ parts, ',' ∉ part := by
      intro part member
      obtain ⟨segment, inside, rfl⟩ := List.mem_map.mp member
      exact carry.undivided proper segment inside
    have cut : Text.pieces (· == ',') ([','].intercalate parts) = parts :=
      Text.pieces_intercalate (List.cons_ne_nil _ _) undivided
    -- Taken apart at the commas, the text gives the segments back, and these give the names.
    calc hostList (",".intercalate (segment :: rest))
        = namesIn (Text.pieces (· == ',') ([','].intercalate parts)) := by
          rw [hostList_eq_namesIn, String.toList_intercalate]
          rfl
      _ = namesIn parts := congrArg namesIn cut
      _ = names := carry.namesIn_eq proper

/-- The names in a text are those that it lists. -/
theorem hostList_eq_iff {names : List String} {text : String} :
    hostList text = names ↔ Lists names text := by
  constructor
  -- The text lists the names that are found in it, whichever they are.
  · rintro rfl
    exact lists_hostList text
  · exact hostList_of_lists

/-- A blank text lists nothing. -/
theorem lists_nil_of_blank {text : String} (blank : Text.Blank text) : Lists [] text :=
  ⟨by simp, [text], .blank blank .nil, by simp⟩

end Overrides

namespace Config

/-- What is loaded from a file is what it gives, with the overrides in place and nothing wrong. -/
theorem load_eq_ok_iff_of_gives {file : ConfigFile} {base : Config} (given : Gives file base)
    {overrides : Overrides} {config : Config} :
    load file overrides = .ok config ↔
      base.overridden overrides = config ∧ config.fault? = none := by
  -- What a file gives is what it holds, which decides the file's part of the loading.
  have held : ofFile file = .ok base := ofFile_eq_ok_iff.mpr given
  rw [load_eq_ok_iff]
  constructor
  -- There is one configuration in the file, and it is the one that it gives.
  · rintro ⟨other, same, loaded⟩
    obtain rfl : base = other := Except.ok.inj (held.symm.trans same)
    exact loaded
  · exact fun loaded => ⟨base, held, loaded⟩

/--
A configuration is layered: what a file gives, with hosts, user and password from the environment.

Each of the three is replaced exactly when its variable is set. The result is accepted exactly when
its interval is positive and there are hosts where the mode needs them. A set variable gives the
hosts it lists and no others, so that one which is blank leaves none, whatever the file names.
-/
theorem load_layered {file : ConfigFile} {base : Config} (given : Gives file base)
    (environment : String → Option String) :
    let hosts :=
      ((environment Overrides.hostsVariable).map Overrides.hostList).getD base.ipmi.hosts
    ((∃ config, load file (.ofEnvironment environment) = .ok config) ↔
      0 < base.collector.updateInterval ∧ (base.ipmi.mode = .remoteTool → hosts ≠ [])) ∧
    (∀ config, load file (.ofEnvironment environment) = .ok config →
      config = { base with ipmi := { base.ipmi with
        hosts,
        user := (environment Overrides.userVariable).getD base.ipmi.user,
        password := (environment Overrides.passwordVariable).getD base.ipmi.password } }) ∧
    ∀ text, environment Overrides.hostsVariable = some text →
      (∀ names, hosts = names ↔ Overrides.Lists names text) ∧
        (Text.Blank text → hosts = []) := by
  intro hosts
  let layered := base.overridden (.ofEnvironment environment)
  -- Whether something is loaded and what it is both depend on the layered settings alone.
  have loaded : ∀ config, load file (.ofEnvironment environment) = .ok config ↔
      layered = config ∧ config.fault? = none := fun config => load_eq_ok_iff_of_gives given
  refine ⟨?_, fun config accepted => ((loaded config).mp accepted).1.symm, fun text set => ?_⟩
  · -- The checks are made on the layered settings, of which the file alone gives the interval.
    have checks : layered.fault? = none ↔
        0 < base.collector.updateInterval ∧ (base.ipmi.mode = .remoteTool → hosts ≠ []) :=
      fault?_eq_none_iff
    rw [← checks]
    constructor
    -- Whatever is accepted is the layered configuration, which then has passed the checks.
    · rintro ⟨config, accepted⟩
      obtain ⟨rfl, faultless⟩ := (loaded config).mp accepted
      exact faultless
    · intro faultless
      exact ⟨layered, (loaded layered).mpr ⟨rfl, faultless⟩⟩
  -- A set variable decides the hosts, so that they are the ones it lists.
  · have listed : hosts = Overrides.hostList text := by
      simp only [hosts, set, Option.map_some, Option.getD_some]
    rw [listed]
    exact ⟨fun names => Overrides.hostList_eq_iff, fun blank =>
      Overrides.hostList_of_lists (Overrides.lists_nil_of_blank blank)⟩

/-- Hosts in a file give way to those that are listed, and to a blank list, which is refused. -/
theorem load_layered_overBmc :
    let file := ConfigFile.holding (Utf8.encode ['\x7b', '"', 'i', 'p', 'm', 'i', '"', ':', '\x7b',
      '"', 'm', 'o', 'd', 'e', '"', ':', '"', 'o', 'o', 'b', '"', ',',
      '"', 'h', 'o', 's', 't', 's', '"', ':', '[', '"', 'b', 'm', 'c', '"', ']', '\x7d', '\x7d'])
    let environment := fun hosts name => if name = Overrides.hostsVariable then some hosts else none
    load file (.ofEnvironment (environment " a ,,\u3000,\tb c"))
      = .ok { ipmi := { mode := .remoteTool, hosts := ["a", "b c"] } } ∧
    ¬ ∃ config, load file (.ofEnvironment (environment " \u2028")) = .ok config := by
  intro file environment
  -- The text spells the mode and one host, and everything else is at its default.
  have given : Gives file { ipmi := { mode := .remoteTool, hosts := ["bmc"] } } :=
    .spelled (Utf8.decode?_encode _) rfl
  constructor
  · obtain ⟨accepted, layered, listed⟩ := load_layered given (environment " a ,,\u3000,\tb c")
    -- Both names have no comma and no white space at their ends, though one has a space inside.
    have proper : ∀ name ∈ ["a", "b c"], HostName name := by
      intro name member
      simp only [List.mem_cons, List.not_mem_nil, or_false] at member
      rcases member with rfl | rfl
      all_goals
        refine ⟨by decide, by decide, fun char first => ?_, fun char last => ?_⟩
        · obtain rfl := Option.some.inj first
          decide
        · obtain rfl := Option.some.inj last
          decide
    -- A segment for each name, with an empty one and a wide space in between.
    have carry : Overrides.Carry ["a", "b c"]
        [" " ++ "a" ++ " ", "", "\u3000", "\t" ++ "b c" ++ ""] :=
      .name "a" (List.all_eq_true.mp rfl) (List.all_eq_true.mp rfl) <|
      .blank (List.all_eq_true.mp rfl) <|
      .blank (List.all_eq_true.mp rfl) <|
      .name "b c" (List.all_eq_true.mp rfl) (List.all_eq_true.mp rfl) .nil
    -- The listed names replace the host of the file, and they are hosts enough for the mode.
    have hosts := ((listed _ rfl).1 ["a", "b c"]).mpr ⟨proper, _, carry, rfl⟩
    have reached := hosts.trans_ne (List.cons_ne_nil "a" ["b c"])
    obtain ⟨config, loaded⟩ := accepted.mpr ⟨by decide +kernel, fun _ => reached⟩
    have same := layered config loaded
    rw [hosts] at same
    rw [loaded, same]
    rfl
  -- A blank list leaves no host, which the mode does not allow.
  · obtain ⟨accepted, _, listed⟩ := load_layered given (environment " \u2028")
    obtain ⟨_, emptied⟩ := listed " \u2028" rfl
    rw [accepted]
    rintro ⟨_, reached⟩
    exact reached rfl (emptied (List.all_eq_true.mp rfl))

end Config

end BmcTelemetry
