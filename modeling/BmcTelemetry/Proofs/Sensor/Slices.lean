import BmcTelemetry.Sensor.Scan

/-! Slices tile a record: each begins where the one before ends, and none exceeds a page. -/

namespace BmcTelemetry.Sensor

/-- Slices of at most a page follow one another from a start to an end without gap or overlap. -/
inductive Tiles (page : Nat) : Nat → List Slice → Nat → Prop
  /-- No slices cover nothing. -/
  | nil (place : Nat) : Tiles page place [] place
  /-- A slice covers its bytes, and the rest goes on from there. -/
  | cons {offset count stop : Nat} {rest : List Slice} (positive : 0 < count)
      (fits : count ≤ page) (tiled : Tiles page (offset + count) rest stop) :
      Tiles page offset (⟨offset, count⟩ :: rest) stop

/-- Slices never lead backwards. -/
theorem Tiles.le {page start stop : Nat} {parts : List Slice}
    (tiled : Tiles page start parts stop) : start ≤ stop := by
  -- Each slice starts no later than the rest of them.
  induction tiled with
  | nil => exact Nat.le_refl _
  | cons => omega

/-- The slices from one index on tile the rest of the record. -/
theorem slices_tile_from {page total : Nat} (positive : 0 < page) :
    ∀ count index, (total + (page - 1)) / page = index + count →
      Tiles page (min (index * page) total)
        ((List.range' index count).map fun index =>
          { offset := index * page, count := min (total - index * page) page }) total := by
  intro count
  -- Each step takes one page off the front, and the last one ends with the record.
  induction count with
  | zero =>
    intro index last
    -- With all indices used up, the last one lies at the end of the record or past it.
    have covered : total ≤ index * page := by
      have bound := Nat.lt_div_mul_add positive (a := total + (page - 1))
      rw [last, Nat.add_zero] at bound
      omega
    simpa [Nat.min_eq_right covered] using Tiles.nil total
  | succ count ih =>
    intro index last
    -- An index that is left starts a slice inside the record.
    have inside : index * page < total := by
      have bound : (index + 1) * page ≤ total + (page - 1) :=
        (Nat.le_div_iff_mul_le positive).mp (by omega)
      rw [Nat.succ_mul] at bound
      omega
    have onward := ih (index + 1) (by omega)
    rw [List.range'_succ, List.map_cons, Nat.min_eq_left (by omega)]
    refine .cons (by omega) (Nat.min_le_right _ _) ?_
    rwa [Nat.succ_mul, show min (index * page + page) total
      = index * page + min (total - index * page) page by omega] at onward

/-- The slices of a record tile it. -/
theorem slices_tile {page : Nat} (positive : 0 < page) (total : Nat) :
    Tiles page 0 (slices total page) total := by
  -- From index zero on the slices are all there are.
  have tiled := slices_tile_from positive ((total + (page - 1)) / page) 0
    (Nat.zero_add _).symm
  simpa [slices, List.range_eq_range'] using tiled

/-- A record that is no longer than a page is read at once. -/
theorem slices_single {total page : Nat} (positive : 0 < total) (fits : total ≤ page) :
    slices total page = [⟨0, total⟩] := by
  -- One page covers all of the record, so there is one index.
  have single : (total + (page - 1)) / page = 1 :=
    Nat.div_eq_of_lt_le (by omega) (by omega)
  simp [slices, single, Nat.min_eq_left fits]

end BmcTelemetry.Sensor
