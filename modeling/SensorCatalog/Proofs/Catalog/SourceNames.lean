import SensorCatalog.Proofs.Catalog.Entries
import SensorCatalog.Proofs.Label.SourceName

/-!
# The names of a catalogue in source code

The tokens of a catalogue are names that source code can use, since the documents are refused
otherwise. So are the names of the classes of the groups that sensor types have of their own, which
begin as the tokens do. The key of a shared group is not checked: its class has a name that source
code cannot use exactly if the key's own token begins with a digit.

## Main results

* `Catalog.names_isSourceName_iff`: the names of a catalogue that source code can use.
* `Catalog.exists_className_not_isSourceName`: a class whose name source code cannot use.
-/

namespace SensorCatalog

open Label

/-- An own group takes its name from the token of its sensor type. -/
theorem GroupDefinition.name_ofSensor? {rules : NameRules}
    {d : String × SensorDefinition} {g : GroupDefinition} (hg : ofSensor? rules d = some g)
    {e : String × SensorType} (he : IsSensorOf rules d e) : g.name = displayName e.1 := by
  obtain ⟨id, hid, hg⟩ := Option.bind_eq_some_iff.1 hg
  rw [he.token, ← Option.some.inj (hid.symm.trans he.id)]
  cases hsource : d.2.scales with
  | shared reference =>
    rw [hsource] at hg
    cases hg
  | own scales =>
    rw [hsource] at hg
    obtain rfl := Option.some.inj hg
    rfl

namespace Catalog

variable {scales : ScaleDocument} {sensors : SensorDocument} {rules : NameRules}
  {catalog : Catalog}

theorem isSourceName_sensorToken (h : build scales sensors rules = .ok catalog)
    {e : String × SensorType} (he : e ∈ catalog.sensors.entries) : IsSourceName e.1 := by
  obtain ⟨d, -, hsensor⟩ := exists_isSensorOf h he
  have hname := hsensor.isIdentifier
  rw [hsensor.token] at hname ⊢
  exact isSourceName_token_iff.2 hname

theorem isSourceName_scaleToken (h : build scales sensors rules = .ok catalog)
    {group : ScaleGroup} (hgroup : group ∈ catalog.groups.values) {e : String × Scale}
    (he : e ∈ group.scales.entries) : IsSourceName e.1 := by
  obtain ⟨key, hkey⟩ := Table.mem_values.1 hgroup
  obtain ⟨g, -, hgroup⟩ := exists_isGroupOf h hkey
  obtain ⟨d, -, hscale⟩ := hgroup.scales.exists_left_of_mem he
  have hname := hscale.isIdentifier
  rw [hscale.token] at hname ⊢
  exact isSourceName_token_iff.2 hname

/-- The class of an own group has a name that source code can use. -/
theorem isSourceName_className_own (h : build scales sensors rules = .ok catalog)
    {d : String × SensorDefinition} (hd : d ∈ sensors.entries) {g : GroupDefinition}
    (hg : GroupDefinition.ofSensor? rules d = some g) {e : String × ScaleGroup}
    (he : IsGroupOf g e) : IsSourceName e.2.className := by
  obtain ⟨sensor, -, hsensor⟩ :=
    (build_eq_ok_iff_represents.1 h).1.sensors.exists_right_of_mem hd
  have htoken : token .dropped sensor.1 = sensor.1 := by
    rw [hsensor.token]
    exact token_token _ _ _
  rw [ScaleGroup.className, he.name, GroupDefinition.name_ofSensor? hg hsensor,
    className_displayName, isSourceName_className_iff, htoken]
  exact not_beginsWithDigit_of_isIdentifier hsensor.isIdentifier

theorem isSourceName_className_shared_iff {d : String × ScaleDefinitions}
    {e : String × ScaleGroup} (he : IsGroupOf (.ofShared d) e) :
    IsSourceName e.2.className ↔ ¬ beginsWithDigit (token .dropped d.1) := by
  rw [ScaleGroup.className, he.name, GroupDefinition.ofShared, className_displayName,
    isSourceName_className_iff]

/-- **The names of a catalogue.** Source code can use every token, and the name of the class of
every own group; it can use the name of the class of a shared group exactly if the token of its key
does not begin with a digit. -/
theorem names_isSourceName_iff (h : build scales sensors rules = .ok catalog) :
    (∀ e ∈ catalog.sensors.entries, IsSourceName e.1) ∧
      (∀ group ∈ catalog.groups.values, ∀ e ∈ group.scales.entries, IsSourceName e.1) ∧
      (∀ e ∈ catalog.groups.entries, ∀ d ∈ sensors.entries, ∀ g,
        GroupDefinition.ofSensor? rules d = some g → IsGroupOf g e →
          IsSourceName e.2.className) ∧
      (∀ e ∈ catalog.groups.entries, ∀ d ∈ scales.entries, IsGroupOf (.ofShared d) e →
        (IsSourceName e.2.className ↔ ¬ beginsWithDigit (token .dropped d.1))) ∧
      ((∀ e ∈ catalog.groups.entries, IsSourceName e.2.className) ↔
        ∀ d ∈ scales.entries, ¬ beginsWithDigit (token .dropped d.1)) := by
  refine ⟨fun e => isSourceName_sensorToken h, fun group hgroup e =>
    isSourceName_scaleToken h hgroup, fun e _ d hd g hg => isSourceName_className_own h hd hg,
    fun e _ d _ => isSourceName_className_shared_iff, ?_⟩
  constructor
  · intro hall d hd
    have hg : GroupDefinition.ofShared d ∈ groupDefinitions scales sensors rules :=
      List.mem_append_left _ (List.mem_map_of_mem hd)
    obtain ⟨e, he, hgroup⟩ :=
      (build_eq_ok_iff_represents.1 h).1.groups.exists_right_of_mem hg
    exact (isSourceName_className_shared_iff hgroup).1 (hall e he)
  · intro hall e he
    obtain ⟨g, hg, hgroup⟩ := exists_isGroupOf h he
    rcases List.mem_append.1 hg with hg | hg
    · obtain ⟨d, hd, rfl⟩ := List.mem_map.1 hg
      exact (isSourceName_className_shared_iff hgroup).2 (hall d hd)
    · obtain ⟨d, hd, hg⟩ := List.mem_filterMap.1 hg
      exact isSourceName_className_own h hd hg hgroup

/-- A document with an empty shared group, which has a key. -/
def groupWithKey (key : String) : ScaleDocument :=
  Table.ofList [(key, ∅)]

/-- A document with a sensor type that has a label and a group of its own with one scale. -/
def sensorWithLabel (label : String) : SensorDocument :=
  Table.ofList [("0x01", ⟨label, .own (Table.ofList [("0x00", ⟨"Percentage value", none, none⟩)])⟩)]

/-- A digit after the first letter does no harm, in a key and in a label. -/
theorem names_isSourceName_second :
    ∃ catalog, build (groupWithKey "n2d") (sensorWithLabel "X-2nd") ⟨[]⟩ = .ok catalog ∧
      (∀ e ∈ catalog.sensors.entries, IsSourceName e.1) ∧
      ∀ e ∈ catalog.groups.entries, IsSourceName e.2.className := by
  have hok : (build (groupWithKey "n2d") (sensorWithLabel "X-2nd") ⟨[]⟩).isOk := by
    decide +kernel
  obtain ⟨catalog, h⟩ := Fallible.exists_eq_ok_of_isOk hok
  obtain ⟨hsensors, -, -, -, hclasses⟩ := names_isSourceName_iff h
  exact ⟨catalog, h, hsensors, hclasses.2 (by decide +kernel)⟩

/-- **A key can begin with a digit.** The class of the shared group with the key is then no name
that source code can use, and the document is not refused. -/
theorem exists_className_not_isSourceName :
    ∃ catalog, build (groupWithKey "2nd") ∅ ⟨[]⟩ = .ok catalog ∧
      ∃ e ∈ catalog.groups.entries, ¬ IsSourceName e.2.className := by
  have hok : (build (groupWithKey "2nd") ∅ ⟨[]⟩).isOk := by decide +kernel
  obtain ⟨catalog, h⟩ := Fallible.exists_eq_ok_of_isOk hok
  refine ⟨catalog, h, ?_⟩
  have hg : GroupDefinition.ofShared ("2nd", ∅) ∈ groupDefinitions (groupWithKey "2nd") ∅ ⟨[]⟩ :=
    List.mem_singleton_self _
  obtain ⟨e, he, hgroup⟩ := (build_eq_ok_iff_represents.1 h).1.groups.exists_right_of_mem hg
  exact ⟨e, he, fun hname => (isSourceName_className_shared_iff hgroup).1 hname (by decide +kernel)⟩

end Catalog

end SensorCatalog
