import BmcTelemetry.Health.Domain
import BmcTelemetry.Inventory.Basic
import BmcTelemetry.Metric.Catalog
import Mathlib.Data.List.Flatten

/-!
What the formats and the catalog declare: the names that an answer is read as, and their paths.

The roots of a platform's descriptions are chosen so that no two of them lead to the same path.
-/

namespace BmcTelemetry

namespace Format

/-- A field contributes a value under its own name or none at all. -/
theorem contribution_name {data : Bytes} {field : Field} {sub : String} {value : UInt16}
    (found : contribution data field = some (sub, value)) : sub = field.name := by
  -- The field is read, or it is given the value for invalid ones unless it is left out.
  unfold contribution at found
  split at found
  · cases found
    rfl
  · split at found
    · cases found
    · cases found
      rfl

/-- The names of what the fields contribute are names of fields, in the same order. -/
theorem names_contribution (data : Bytes) (fields : List Field) :
    ((fields.filterMap (contribution data)).map Prod.fst).Sublist (fields.map (·.name)) := by
  -- The fields are gone through in order, each with its name or with nothing.
  induction fields with
  | nil => exact List.Sublist.slnil
  | cons field rest ih =>
    rw [List.filterMap_cons]
    split
    · -- A field that is left out leaves out its name.
      exact ih.cons _
    · next found =>
      rw [List.map_cons, List.map_cons, contribution_name found]
      exact ih.cons_cons _

/-- One value for every declared name names them all. -/
theorem names_sentinels (format : Format) (value : UInt16) :
    (format.sentinels value).map Prod.fst = format.metrics := by
  -- A name is put beside the value and taken from there again.
  rw [sentinels, List.map_map]
  exact List.map_id _

/-- No answer is read as values that the format does not declare, or as one of them twice. -/
theorem names_parse (format : Format) (response : Response) :
    ((format.parse response).map Prod.fst).Sublist format.metrics := by
  -- An answer is read field by field in one case alone, and in the others all names are given.
  rw [parse]
  split
  · simp only [names_sentinels, List.Sublist.refl]
  · split
    · exact names_contribution _ _
    · simp only [names_sentinels, List.Sublist.refl]

end Format

namespace Catalog

/-- What may be discovered besides the candidates: an inlet sensor, where the family knows one. -/
def Discoverable (protocol : Protocol) (discovered : List Description) : Prop :=
  discovered = [] ∨ protocol = .dcmi ∧ ∃ sensor, discovered = [inletTemperature sensor]

/-- Descriptions that a host may be found to answer: candidates in their order, and discoveries. -/
def Selection (protocol : Protocol) (descriptions : List Description) : Prop :=
  ∃ kept discovered, kept.Sublist (vendor protocol) ∧ Discoverable protocol discovered ∧
    descriptions = kept ++ discovered

/-- A text as one number, by which texts are told apart. -/
def number (text : String) : Nat :=
  text.toByteArray.data.toList.foldl (fun found byte => found * 256 + byte.toNat) 0

/-- Texts are distinct if their numbers are. -/
theorem nodup_of_numbers {texts : List String} (distinct : (texts.map number).Nodup) :
    texts.Nodup :=
  List.Pairwise.of_map number (fun _ _ differ same => differ (congrArg number same)) distinct

/--
No two candidates of a command family, and no discovered sensor, lead to the same path, nor does
any of them lead to a path of inventories or of health.
-/
theorem allPaths_nodup (protocol : Protocol) {discovered : List Description}
    (inlet : Discoverable protocol discovered) :
    ((vendor protocol ++ discovered).flatMap Description.paths ++ Inventory.metrics
      ++ HealthDomain.metrics).Nodup := by
  -- There are finitely many paths, and numbers are quicker to tell apart than texts.
  apply nodup_of_numbers
  rcases inlet with rfl | ⟨rfl, sensor, rfl⟩
  -- Each command family has a fixed list of candidates.
  · cases protocol <;> decide +kernel
  · -- The sensor's number is no part of any path.
    change (((vendor .dcmi ++ [inletTemperature 0]).flatMap Description.paths
      ++ Inventory.metrics ++ HealthDomain.metrics).map number).Nodup
    decide +kernel

/-- No path is declared twice of a host that answers a selection. -/
theorem Selection.allPaths_nodup {protocol : Protocol} {descriptions : List Description}
    (selection : Selection protocol descriptions) :
    (descriptions.flatMap Description.paths ++ Inventory.metrics ++ HealthDomain.metrics).Nodup := by
  -- What was kept of the candidates is in their order, and the discoveries are all there.
  obtain ⟨kept, discovered, chosen, inlet, rfl⟩ := selection
  -- Leaving candidates out leaves paths out.
  have fewer := (chosen.append (List.Sublist.refl discovered)).flatMap Description.paths
  exact (Catalog.allPaths_nodup protocol inlet).sublist
    ((fewer.append (List.Sublist.refl _)).append (List.Sublist.refl _))

/-- No two descriptions of a selection lead to the same path. -/
theorem Selection.paths_nodup {protocol : Protocol} {descriptions : List Description}
    (selection : Selection protocol descriptions) :
    (descriptions.flatMap Description.paths).Nodup :=
  selection.allPaths_nodup.sublist
    ((List.sublist_append_left _ _).trans (List.sublist_append_left _ _))

end Catalog

end BmcTelemetry
