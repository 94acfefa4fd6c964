import BmcTelemetry.Config.Load
import BmcTelemetry.Proofs.Decimal.Finite
import BmcTelemetry.Proofs.Json.Codec
import BmcTelemetry.Proofs.Text.Utf8

/-!
A configuration that is saved is loaded again as it was, and saved as the same text.

The file keeps every field, because every field of the document is written under its own name and
in a form that reads back. The environment puts the same settings in place a second time, or none.
-/

namespace BmcTelemetry

open Json (Codec RecordField)

section Documents

open Json.RecordField (carries_of)

/-- The settings on how controllers are reached are kept. -/
theorem IpmiSettings.keeps (settings : IpmiSettings) :
    (Codec.record IpmiSettings.fields {}).Keeps settings := by
  -- The mode and the protocol are written by their names, and every value has a name of its own.
  have mode : (Codec.choice Transport.Mode.all Transport.Mode.name).Keeps settings.mode :=
    Codec.keeps_choice (by decide) (by cases settings.mode <;> decide)
  have protocol : (Codec.choice Protocol.all Protocol.name).Keeps settings.protocol :=
    Codec.keeps_choice (by decide) (by cases settings.protocol <;> decide)
  have hosts : (Codec.list Codec.text).Keeps settings.hosts :=
    Codec.keeps_list fun host _ => Codec.keeps_text host
  -- The fields are carried in the order in which the document has them.
  have carried : List.Forall₂ (RecordField.Carries settings) fields _ :=
    .cons (carries_of mode) <|
    .cons (carries_of protocol) <|
    .cons (carries_of (Codec.keeps_text settings.device)) <|
    .cons (carries_of (Codec.keeps_text settings.tool)) <|
    .cons (carries_of (Codec.keeps_byte settings.channel)) <|
    .cons (carries_of (Codec.keeps_byte settings.slave)) <|
    .cons (carries_of hosts) <|
    .cons (carries_of (Codec.keeps_text settings.user)) <|
    .cons (carries_of (Codec.keeps_text settings.password)) .nil
  -- The fields have different names, and together they are all there is to the settings.
  exact Codec.keeps_record (by decide) carried rfl

/-- The settings on what is collected are kept, when the interval is. -/
theorem CollectorSettings.keeps {settings : CollectorSettings}
    (interval : Codec.float.Keeps settings.updateInterval) :
    (Codec.record CollectorSettings.fields {}).Keeps settings := by
  -- All fields but the interval are kept whatever they hold.
  have carried : List.Forall₂ (RecordField.Carries settings) fields _ :=
    .cons (carries_of interval) <|
    .cons (carries_of (Codec.keeps_bool settings.strictValidation)) <|
    .cons (carries_of (Codec.keeps_bool settings.collectInventory)) <|
    .cons (carries_of (Codec.keeps_bool settings.collectHealth)) .nil
  exact Codec.keeps_record (by decide) carried rfl

/-- A configuration is kept, when its interval is. -/
theorem Config.keeps {config : Config}
    (interval : Codec.float.Keeps config.collector.updateInterval) : codec.Keeps config := by
  -- The two records inside are kept as documents of their own.
  have carried : List.Forall₂ (RecordField.Carries config) fields _ :=
    .cons (carries_of config.ipmi.keeps) <|
    .cons (carries_of (CollectorSettings.keeps interval)) <|
    .cons (carries_of (Codec.keeps_text config.logLevel)) .nil
  exact Codec.keeps_record (by decide) carried rfl

end Documents

section Environments

/-- A value that is put in place a second time is there already, and so is one that is not. -/
theorem getD_again {α : Type} {first second : Option α} (again : second = none ∨ second = first)
    (value : α) : second.getD (first.getD value) = first.getD value := by
  -- What is absent leaves the value alone, and what is the same finds its value in place.
  rcases again with rfl | rfl
  · rfl
  · cases second <;> rfl

/-- Overrides that are the same or absent leave settings alone that the first ones are in. -/
theorem Overrides.apply_again {first second : Overrides}
    (hosts : second.hosts = none ∨ second.hosts = first.hosts)
    (user : second.user = none ∨ second.user = first.user)
    (password : second.password = none ∨ second.password = first.password)
    (settings : IpmiSettings) : second.apply (first.apply settings) = first.apply settings := by
  -- The hosts are split before they are put in place, and the same text is split the same way.
  have hostLists : second.hosts.map hostList = none ∨
      second.hosts.map hostList = first.hosts.map hostList := by
    rcases hosts with absent | same
    · exact .inl (by rw [absent]; rfl)
    · exact .inr (by rw [same])
  simp only [apply, getD_again hostLists, getD_again user, getD_again password]

end Environments

namespace Config

/-- The file that a configuration is saved as holds the configuration. -/
theorem ofFile_toFile {config : Config}
    (interval : Codec.float.Keeps config.collector.updateInterval) :
    ofFile config.toFile = .ok config := by
  -- The interval is the one part that may not be kept, so that it is asked for.
  obtain ⟨sound, back⟩ := keeps interval
  have text : config.toText.toList = (codec.encode config).print (.indented 0) := by
    rw [toText, Json.pretty, String.toList_ofList]
  -- The text is read as the document, and the document as the configuration.
  have spelled : ofText? config.toText.toList = some config := by
    rw [ofText?, text, sound.read_print, Option.bind_some, back]
  simp only [ofFile, toFile, Utf8.toUTF8_eq_encode, Utf8.decode?_encode, spelled]

/-- A configuration passes the checks as it is, or not at all. -/
theorem checked_eq_ok_iff {config found : Config} :
    config.checked = .ok found ↔ config = found ∧ found.fault? = none := by
  rw [checked]
  constructor
  · -- The checks change nothing, so what they pass is what they were given.
    intro passed
    split at passed
    · cases passed
    · next faultless =>
      cases passed
      exact ⟨rfl, faultless⟩
  · rintro ⟨rfl, faultless⟩
    rw [faultless]

/-- What is loaded is what the file holds, with the overrides in place and nothing wrong with it. -/
theorem load_eq_ok_iff {file : ConfigFile} {overrides : Overrides} {config : Config} :
    load file overrides = .ok config ↔
      ∃ base, ofFile file = .ok base ∧ base.overridden overrides = config ∧
        config.fault? = none := by
  rw [load]
  -- Without a configuration from the file, nothing is left to check.
  cases held : ofFile file with
  | error fault =>
    constructor
    · intro accepted
      cases accepted
    · rintro ⟨base, same, _⟩
      cases same
  | ok base =>
    constructor
    · intro accepted
      exact ⟨base, rfl, checked_eq_ok_iff.mp accepted⟩
    · rintro ⟨_, same, passed⟩
      cases same
      exact checked_eq_ok_iff.mpr passed

/-- Settings from an environment that is the same or silent are in place already. -/
theorem overridden_again (base : Config) {environment later : String → Option String}
    (unchanged : ∀ name ∈ Overrides.variableNames,
      later name = none ∨ later name = environment name) :
    (base.overridden (.ofEnvironment environment)).overridden (.ofEnvironment later)
      = base.overridden (.ofEnvironment environment) := by
  -- Each of the three settings comes from a variable of its own.
  have settings : (Overrides.ofEnvironment later).apply
      ((Overrides.ofEnvironment environment).apply base.ipmi)
      = (Overrides.ofEnvironment environment).apply base.ipmi :=
    Overrides.apply_again (unchanged _ (by simp [Overrides.variableNames]))
      (unchanged _ (by simp [Overrides.variableNames]))
      (unchanged _ (by simp [Overrides.variableNames])) base.ipmi
  exact congrArg (fun ipmi => { base with ipmi }) settings

/--
Loading what was saved gives the configuration back, with the same text when it is saved again.

The environment may have changed in that settings are gone from it, since those are in the file.
-/
theorem load_saved {file : ConfigFile} {environment later : String → Option String}
    {config : Config} (accepted : load file (.ofEnvironment environment) = .ok config)
    (unchanged : ∀ name ∈ Overrides.variableNames,
      later name = none ∨ later name = environment name)
    (reads : (Numeral.ofFloat config.collector.updateInterval).toFloat?
      = some config.collector.updateInterval) :
    ∃ again, load config.toFile (.ofEnvironment later) = .ok again ∧ again = config ∧
      again.toText = config.toText := by
  -- Whatever is read is finite, so the interval is written as a number.
  have finite := Numeral.isFinite_of_toFloat? reads
  have held := ofFile_toFile (Codec.keeps_float finite reads)
  -- What was accepted has its overrides in place, so the checks pass a second time.
  obtain ⟨base, _, overridden, faultless⟩ := load_eq_ok_iff.mp accepted
  have settled : config.overridden (.ofEnvironment later) = config := by
    rw [← overridden]
    exact overridden_again base unchanged
  exact ⟨config, load_eq_ok_iff.mpr ⟨config, held, settled, faultless⟩, rfl, rfl⟩

/-- Hosts from the environment are in the file that is saved, when the environment has lost them. -/
theorem load_saved_hosts :
    let file := ConfigFile.holding (Utf8.encode ['\x7b', '"', 'i', 'p', 'm', 'i', '"', ':',
      '\x7b', '"', 'm', 'o', 'd', 'e', '"', ':', '"', 'o', 'o', 'b', '"', '\x7d', '\x7d'])
    let environment := fun name =>
      if name = Overrides.hostsVariable then some "bmc-1, bmc-2" else none
    let config : Config := { ipmi := { mode := .remoteTool, hosts := ["bmc-1", "bmc-2"] } }
    load file (.ofEnvironment environment) = .ok config ∧
      ∃ again, load config.toFile (.ofEnvironment fun _ => none) = .ok again ∧ again = config ∧
        again.toText = config.toText := by
  intro file environment config
  -- The file names the mode alone, for which it would not be accepted without the environment.
  have base : ofFile file = .ok { ipmi := { mode := .remoteTool } } := by
    simp only [ofFile, file, Utf8.decode?_encode]
    -- The default interval is positive, which is decided on its bits.
    rfl
  have overridden : Config.overridden { ipmi := { mode := .remoteTool } }
      (.ofEnvironment environment) = config := by
    rfl
  have hosts : ¬ (config.ipmi.mode = .remoteTool ∧ config.ipmi.hosts = []) :=
    fun missing => nomatch missing.2
  have interval : ¬ (config.collector.updateInterval.isNaN ∨
      config.collector.updateInterval ≤ 0) := by
    decide +kernel
  have faultless : config.fault? = none := by
    simp only [fault?]
    rw [if_neg hosts, if_neg interval]
  have accepted : load file (.ofEnvironment environment) = .ok config :=
    load_eq_ok_iff.mpr ⟨_, base, overridden, faultless⟩
  have reads : (Numeral.ofFloat config.collector.updateInterval).toFloat?
      = some config.collector.updateInterval := by
    decide +kernel
  exact ⟨accepted, load_saved accepted (fun _ _ => .inl rfl) reads⟩

end Config

end BmcTelemetry
