import SensorCatalog.Proofs.ConstantsFile.Names

/-!
# The sections of the generated part

Rendering can fail, since a sensor type can name a group that is not there. For a catalogue that was
made from documents it does not, and the generated part is put together of sections that are written
from the entries of the catalogue alone.

## Main definitions

* `ConstantsFile.scaleMapLines`: the map from sensor types to scale classes.
* `ConstantsFile.generatedLines`: the generated part.

## Main results

* `ConstantsFile.render_eq`: rendering a catalogue that was made from documents.
-/

namespace SensorCatalog.ConstantsFile

/-- The map from sensor types to scale classes, where every sensor type has the class of the group
that it names. -/
def scaleMapLines (sensors : Table SensorType) : List String :=
  ["pub const " ++ scaleMapName ++ ": &[(" ++ sensorTypeName ++ ", " ++ scaleKindName ++
    ")] = &["] ++
  sensors.entries.map (fun e => indent ++ "(" ++ sensorTypeName ++ "::" ++ e.1 ++ ", " ++
    scaleKindName ++ "::" ++ Label.className e.2.group ++ "),") ++
  ["];", ""]

/-- The generated part of a catalogue, with a reference to where its sensor types come from. -/
def generatedLines (catalog : Catalog) (reference : String) : List String :=
  header ++ catalog.sensors.entries.map (fun e => property e.1 e.2) ++ [""] ++
    constantType sensorTypeName (sensorMembers catalog) (some reference) "" ++
    scaleTypes (catalog.groups.values.map ScaleGroup.className) ++
    catalog.groups.values.flatMap (scaleClass reference) ++
    scaleMapLines catalog.sensors ++
    unitLists (UnitIndex.ofGroups catalog.groups.values) ++ [""] ++ endBlock

variable {scales : ScaleDocument} {sensors : SensorDocument} {rules : NameRules}
  {catalog : Catalog}

/-- **The map from sensor types to scale classes** has a row for each sensor type, with the class of
the group that the sensor type names. -/
theorem scaleMap_eq (h : Catalog.build scales sensors rules = .ok catalog) :
    scaleMap catalog = .ok (scaleMapLines catalog.sensors) := by
  refine Fallible.bind_eq_ok_iff.2 ⟨_, Fallible.mapM_eq_ok_iff.2
    (List.forall₂_map_right_iff.2 (List.forall₂_same.2 fun e he => ?_)), rfl⟩
  obtain ⟨group, hgroup, hname⟩ := Catalog.exists_group h he
  rw [scaleMapRow, Table.find?_eq_some_iff.2 hgroup, ← hname]
  rfl

/-- **Rendering a catalogue that was made from documents** gives its generated part. -/
theorem render_eq (h : Catalog.build scales sensors rules = .ok catalog) (source : Source) :
    render catalog (UnitIndex.ofGroups catalog.groups.values) source =
      .ok (generatedLines catalog (source.blobUrl source.sensorTypesPath)) :=
  Fallible.bind_eq_ok_iff.2 ⟨_, scaleMap_eq h, rfl⟩

end SensorCatalog.ConstantsFile
