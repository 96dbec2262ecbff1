import SensorCatalog.Proofs.Catalog.Growth
import SensorCatalog.Proofs.ConstantsFile.References

/-!
# Generated parts that grow

Every section of the generated part is written entry by entry, in an order that the entries
themselves decide. So when the documents get more entries, the generated part only gets more lines:
those that were there stay as they are and in their order, and what each of them declares or lists
stays in its place.

## Main results

* `ConstantsFile.generatedLines_sublist`, `ConstantsFile.outline_sublist`: the lines and the items
  of a catalogue that is part of another one.
* `ConstantsFile.exists_render_sublist`: the generated parts of documents that grow.
-/

namespace SensorCatalog.ConstantsFile

/-! ### Sections -/

theorem scaleTypes_sublist {classes classes' : List String} (h : classes.Sublist classes') :
    (scaleTypes classes).Sublist (scaleTypes classes') :=
  (((((((List.Sublist.refl _).append (h.map _)).append (.refl _)).append (h.map _)).append
    (.refl _)).append (h.map _)).append (.refl _)).append (h.flatMap _)

theorem scaleTypesItems_sublist {classes classes' : List String} (h : classes.Sublist classes') :
    (scaleTypesItems classes).Sublist (scaleTypesItems classes') :=
  ((((h.map _).cons_cons _).append ((h.map _).cons_cons _)).append (h.map _)).append (h.map _)

section

variable {members members' : List (String × UInt8)} (h : members.Sublist members')

include h

theorem constantType_sublist (name : String) (reference : Option String) (subject : String) :
    (constantType name members reference subject).Sublist
      (constantType name members' reference subject) :=
  ((List.Sublist.refl _).append (h.map _)).append (.refl _)

theorem constantTypeItems_sublist (name : String) :
    (constantTypeItems name members).Sublist (constantTypeItems name members') :=
  (h.map _).cons_cons _

end

theorem scaleMapLines_sublist {sensors sensors' : Table SensorType}
    (h : sensors.entries.Sublist sensors'.entries) :
    (scaleMapLines sensors).Sublist (scaleMapLines sensors') :=
  ((List.Sublist.refl _).append (h.map _)).append (.refl _)

section

variable (token : String) {members members' : List ClassMember} (h : members.Sublist members')

include h

theorem unitList_sublist : (unitList token members).Sublist (unitList token members') :=
  ((List.Sublist.refl _).append (h.map _)).append (.refl _)

theorem unitListItems_sublist :
    (unitListItems token members).Sublist (unitListItems token members') :=
  (h.map _).cons_cons _

end

/-! ### The generated part -/

section

variable {catalog catalog' : Catalog}

/-- **The lines of a catalogue** are among those of a catalogue that it is part of, in order. -/
theorem generatedLines_sublist (h : catalog.IsPartOf catalog') (reference : String) :
    (generatedLines catalog reference).Sublist (generatedLines catalog' reference) := by
  have hsensors := constantType_sublist (h.sensors.map fun e => (e.1, e.2.id)) sensorTypeName
    (some reference) ""
  have htypes := scaleTypes_sublist (h.values.map ScaleGroup.className)
  have hunits := UnitIndex.flatMap_entries_sublist (f := fun e => unitList e.1 e.2)
    (fun token _ _ => unitList_sublist token) h.values.subset
  exact (((((((((List.Sublist.refl header).append (h.sensors.map _)).append (.refl _)).append
    hsensors).append htypes).append (h.values.flatMap _)).append
    (scaleMapLines_sublist h.sensors)).append hunits).append (.refl _)).append (.refl _)

/-- **The items of a catalogue** are among those of a catalogue that it is part of, in order. -/
theorem outline_sublist (h : catalog.IsPartOf catalog') :
    (outline catalog).Sublist (outline catalog') := by
  have hsensors := constantTypeItems_sublist (h.sensors.map fun e => (e.1, e.2.id)) sensorTypeName
  have htypes := scaleTypesItems_sublist (h.values.map ScaleGroup.className)
  have hunits := UnitIndex.flatMap_entries_sublist (f := fun e => unitListItems e.1 e.2)
    (fun token _ _ => unitListItems_sublist token) h.values.subset
  exact ((((((List.Sublist.refl _).append (h.sensors.map _)).append hsensors).append htypes).append
    (h.values.flatMap _)).append ((h.sensors.map _).cons_cons (.list scaleMapName))).append hunits

variable {scales scales' : ScaleDocument} {sensors sensors' : SensorDocument} {rules : NameRules}

/-- **Generated parts that grow.** Of two accepted pairs of documents of which one has all entries
of the other, the generated part of the larger pair has all lines of the generated part of the
smaller one, in their order; and read back, it declares and lists all that the smaller one does,
in the same places. -/
theorem exists_render_sublist (hscales : scales.entries ⊆ scales'.entries)
    (hsensors : sensors.entries ⊆ sensors'.entries)
    (h : Catalog.build scales sensors rules = .ok catalog)
    (h' : Catalog.build scales' sensors' rules = .ok catalog') (source : Source) :
    ∃ lines lines' items items',
      render catalog (UnitIndex.ofGroups catalog.groups.values) source = .ok lines ∧
      render catalog' (UnitIndex.ofGroups catalog'.groups.values) source = .ok lines' ∧
      readLines .module lines = some (.module, items) ∧
      readLines .module lines' = some (.module, items') ∧
      lines.Sublist lines' ∧ items.Sublist items' := by
  have hpart := Catalog.isPartOf_of_subset hscales hsensors h h'
  exact ⟨_, _, _, _, render_eq h source, render_eq h' source, readLines_generatedLines h _,
    readLines_generatedLines h' _, generatedLines_sublist hpart _, outline_sublist hpart⟩

end

/-- The groups of `temperatureScales`, and one that comes before them. -/
def climateScales : ScaleDocument :=
  temperatureScales.insert "humidity" (Table.ofList [("0x00", ⟨"Percentage value", none, none⟩)])

/-- The sensor types of `temperatureSensors`, one that comes before them, and one with a scale that
has the label of one of theirs. -/
def climateSensors : SensorDocument :=
  (temperatureSensors.insert "0x00" ⟨"Absolute humidity", .shared "$SCALES:humidity"⟩).insert "0x03"
    ⟨"Boiler", .own (Table.ofList [("0x00", ⟨"Celsius", none, none⟩)])⟩

/-- New entries come between those that are there. -/
theorem exists_render_sublist_climate :
    temperatureScales.entries ⊆ climateScales.entries ∧
    temperatureSensors.entries ⊆ climateSensors.entries ∧
    ∃ catalog catalog' lines lines' items items',
      Catalog.build temperatureScales temperatureSensors ⟨[]⟩ = .ok catalog ∧
      Catalog.build climateScales climateSensors ⟨[]⟩ = .ok catalog' ∧
      render catalog (UnitIndex.ofGroups catalog.groups.values) { } = .ok lines ∧
      render catalog' (UnitIndex.ofGroups catalog'.groups.values) { } = .ok lines' ∧
      readLines .module lines = some (.module, items) ∧
      readLines .module lines' = some (.module, items') ∧
      lines.Sublist lines' ∧ items.Sublist items' := by
  have hscales : temperatureScales.entries ⊆ climateScales.entries := by decide +kernel
  have hsensors : temperatureSensors.entries ⊆ climateSensors.entries := by decide +kernel
  obtain ⟨catalog, h, -⟩ := Fallible.exists_eq_ok_of_any
    (x := Catalog.build temperatureScales temperatureSensors ⟨[]⟩)
    (p := fun catalog => catalog.groups.keys.length = 2) (by decide +kernel)
  obtain ⟨catalog', h', -⟩ := Fallible.exists_eq_ok_of_any
    (x := Catalog.build climateScales climateSensors ⟨[]⟩)
    (p := fun catalog => catalog.groups.keys.length = 4) (by decide +kernel)
  obtain ⟨lines, lines', items, items', hall⟩ := exists_render_sublist hscales hsensors h h' { }
  exact ⟨hscales, hsensors, catalog, catalog', lines, lines', items, items', h, h', hall⟩

end SensorCatalog.ConstantsFile
