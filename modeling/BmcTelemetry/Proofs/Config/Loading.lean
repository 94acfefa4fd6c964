import BmcTelemetry.Config.Load

/-!
Loading a configuration: which one a file gives, and what the checks ask of it.

They ask for a positive interval, and for hosts where controllers are reached over the network.
-/

namespace BmcTelemetry

section Intervals

open Float.Model (UnpackedFloat)

/-- A number that is neither zero nor less, and is a number at all, is positive. -/
theorem unpacked_positive_iff (number : UnpackedFloat) :
    ¬ (number.isNaN = true ∨ number.le (.zero .positive) = true) ↔
      UnpackedFloat.lt (.zero .positive) number = true := by
  -- How a number compares with zero depends on its kind and its sign alone.
  cases number with
  | notANumber => decide
  | infinity sign => cases sign <;> decide
  | zero sign => cases sign <;> decide
  | finite sign mantissa exponent positive =>
    cases sign with
    | positive => exact iff_of_true (not_or.mpr ⟨Bool.false_ne_true, Bool.false_ne_true⟩) rfl
    | negative => exact iff_of_false (fun above => above (.inr rfl)) Bool.false_ne_true

/-- An interval that passes the check is a positive one. -/
theorem interval_positive_iff (interval : Float) :
    ¬ (interval.isNaN = true ∨ interval ≤ 0) ↔ 0 < interval := by
  have zero : (0 : Float).toModel.unpack = .zero .positive := rfl
  -- Both comparisons are made on what the numbers are packed from.
  have le : interval ≤ 0 ↔ interval.toModel.unpack.le (.zero .positive) = true := by
    rw [← zero]
    exact decide_eq_true_iff
  have lt : 0 < interval ↔
      UnpackedFloat.lt (.zero .positive) interval.toModel.unpack = true := by
    rw [← zero]
    exact decide_eq_true_iff
  rw [le, lt]
  exact unpacked_positive_iff interval.toModel.unpack

end Intervals

namespace Config

/-- A file gives a configuration: the one that its text spells, or the defaults if it is missing. -/
inductive Gives : ConfigFile → Config → Prop
  /-- Without a file, everything is at its default. -/
  | missing : Gives .missing {}
  /-- A file gives what is spelled by the text that it holds. -/
  | spelled {content : Bytes} {text : List Char} {config : Config}
      (decoded : Utf8.decode? content = some text) (spells : ofText? text = some config) :
      Gives (.holding content) config

/-- The configuration in a file is the one that it gives. -/
theorem ofFile_eq_ok_iff {file : ConfigFile} {config : Config} :
    ofFile file = .ok config ↔ Gives file config := by
  -- A missing file gives the defaults, and one that cannot be read gives nothing.
  constructor
  · intro held
    cases file with
    | missing =>
      cases held
      exact .missing
    | sealed => cases held
    -- Bytes have to be decoded and the text has to spell a configuration, or else there is an
    -- error.
    | holding content =>
      rw [ofFile] at held
      split at held
      · cases held
      · next decoded =>
        split at held
        · cases held
        · next spells =>
          cases held
          exact .spelled decoded spells
  · intro given
    cases given with
    | missing => rfl
    | spelled decoded spells => simp only [ofFile, decoded, spells]

/-- Nothing is wrong with a positive interval, and with hosts where they are needed. -/
theorem fault?_eq_none_iff {config : Config} :
    config.fault? = none ↔ 0 < config.collector.updateInterval ∧
      (config.ipmi.mode = .remoteTool → config.ipmi.hosts ≠ []) := by
  rw [← interval_positive_iff, fault?]
  -- Hosts are looked at first, before the interval.
  by_cases unreached : config.ipmi.mode = .remoteTool ∧ config.ipmi.hosts = []
  -- Hosts are needed and there are none, so that both sides fail.
  · rw [if_pos unreached]
    constructor
    · intro faultless
      cases faultless
    · rintro ⟨_, reached⟩
      exact absurd unreached.2 (reached unreached.1)
  -- The hosts are in order, and what is left is the interval.
  · rw [if_neg unreached]
    have reached : config.ipmi.mode = .remoteTool → config.ipmi.hosts ≠ [] :=
      fun remote none => unreached ⟨remote, none⟩
    split
    · next faulty =>
      constructor
      · intro faultless
        cases faultless
      · rintro ⟨positive, _⟩
        exact absurd faulty positive
    · next positive => exact ⟨fun _ => ⟨positive, reached⟩, fun _ => rfl⟩

end Config

end BmcTelemetry
