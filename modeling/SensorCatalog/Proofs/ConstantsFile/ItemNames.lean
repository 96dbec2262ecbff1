import SensorCatalog.Proofs.ConstantsFile.Outline

/-!
# Names of the items of the module

A module can have one value and one type of each name. The types of the generated part always have
different names. Its values get their names from tokens of two kinds, from those of sensor types by
adding an ending and from those of scales by adding a beginning, and no two values have one name
unless two tokens of different kinds give it to them. The names are read off the lines that the
generated part is put together from, which are lines of the written file
(`exists_render_lines_text_eq`).

## Main definitions

* `ConstantsFile.valueNames`, `ConstantsFile.typeNames`: the names of the module's items.
* `ConstantsFile.GiveOneName`: tokens of a sensor type and of a scale that clash.

## Main results

* `ConstantsFile.giveOneName_iff`: the tokens that give one name.
* `ConstantsFile.exists_render_names_iff`: when the names of the generated part are different.
-/

namespace SensorCatalog

theorem Label.classEnding_suffix_className (name : String) :
    Label.classEnding <:+ (Label.className name).toList := by
  rw [className, String.toList_ofList]
  exact List.suffix_append _ _

namespace ConstantsFile

namespace Item

/-- The name of a constant of the module. -/
def valueName? : Item → Option String
  | .text name => some name
  | .list name => some name
  | _ => none

/-- The name of a type of the module. -/
def typeName? : Item → Option String
  | .struct name => some name
  | .enumeration name => some name
  | _ => none

end Item

/-- The names of the constants of the module. -/
def valueNames (items : List Item) : List String :=
  items.filterMap Item.valueName?

/-- The names of the types of the module. -/
def typeNames (items : List Item) : List String :=
  items.filterMap Item.typeName?

theorem valueNames_outline (catalog : Catalog) :
    valueNames (outline catalog) = ["CC_SPECIFIC_SCALE", "CC_SPECIFIC_SENSOR_TYPE"] ++
      catalog.sensors.keys.map (· ++ "_PROPERTY") ++ [scaleMapName] ++
      (UnitIndex.ofGroups catalog.groups.values).keys.map ("UNIT_" ++ ·) := by
  simp [valueNames, outline, Item.valueName?, List.filterMap_flatMap, Function.comp_def,
    ← List.map_eq_flatMap, Table.keys, sensorMembers]

theorem typeNames_outline (catalog : Catalog) :
    typeNames (outline catalog) = [sensorTypeName, scaleTypeName, scaleKindName] ++
      catalog.groups.values.map ScaleGroup.className := by
  simp [typeNames, outline, Item.typeName?, List.filterMap_cons, List.filterMap_flatMap,
    Function.comp_def, ← List.map_eq_flatMap]

/-! ### Types -/

/-- The types that are there for every catalogue are no classes of scales. -/
theorem ne_className : ∀ name ∈ [sensorTypeName, scaleTypeName, scaleKindName],
    ∀ group : ScaleGroup, name ≠ group.className := by
  have hending : ∀ name ∈ [sensorTypeName, scaleTypeName, scaleKindName],
      ¬ Label.classEnding <:+ name.toList := by
    decide +kernel
  rintro name hname group rfl
  exact hending _ hname (Label.classEnding_suffix_className group.name)

section

variable {scales : ScaleDocument} {sensors : SensorDocument} {rules : NameRules}
  {catalog : Catalog}

theorem nodup_typeNames_outline (h : Catalog.build scales sensors rules = .ok catalog) :
    (typeNames (outline catalog)).Nodup := by
  rw [typeNames_outline, List.nodup_append]
  refine ⟨by decide +kernel, Catalog.nodup_classNames h, fun name hname c hc => ?_⟩
  obtain ⟨group, -, rfl⟩ := List.mem_map.1 hc
  exact ne_className name hname group

/-! ### Values -/

/-- The token of a sensor type and the token of a scale make a unit of a property. -/
def GiveOneName (s t : String) : Prop :=
  s = "UNIT" ∧ t = "PROPERTY" ∨ ∃ x, s = "UNIT_" ++ x ∧ t = x ++ "_PROPERTY"

/-- **The tokens that give one name** to two values. -/
theorem giveOneName_iff {s t : String} : GiveOneName s t ↔ s ++ "_PROPERTY" = "UNIT_" ++ t := by
  symm
  constructor
  · intro h
    have hlist : s.toList ++ "_PROPERTY".toList = "UNIT_".toList ++ t.toList := by
      rw [← String.toList_append, h, String.toList_append]
    rcases List.append_eq_append_iff.1 hlist with ⟨mid, hunit, hproperty⟩ | ⟨mid, hs, ht⟩
    · -- the beginning and the ending overlap, and they do in one character at most
      have hoverlap : ∀ n ≤ "UNIT_".toList.length,
          "UNIT_".toList.drop n <+: "_PROPERTY".toList → n = 4 ∨ n = 5 := by
        decide +kernel
      have hlength : s.toList.length ≤ "UNIT_".toList.length := by
        rw [hunit, List.length_append]
        exact Nat.le_add_right _ _
      have hmid : "UNIT_".toList.drop s.toList.length = mid := by
        rw [hunit, List.drop_left]
      have hs : s.toList = "UNIT_".toList.take s.toList.length := by
        rw [hunit, List.take_left]
      have ht : t.toList = "_PROPERTY".toList.drop mid.length := by
        rw [hproperty, List.drop_left]
      rcases hoverlap _ hlength (hmid ▸ ⟨t.toList, hproperty.symm⟩) with hn | hn
      · rw [hn] at hs hmid
        rw [← hmid] at ht
        exact .inl ⟨String.toList_inj.1 (hs.trans (by decide +kernel)),
          String.toList_inj.1 (ht.trans (by decide +kernel))⟩
      · rw [hn] at hs hmid
        rw [← hmid] at ht
        exact .inr ⟨"", String.toList_inj.1 (hs.trans (by decide +kernel)),
          String.toList_inj.1 (ht.trans (by decide +kernel))⟩
    · refine .inr ⟨String.ofList mid, ?_, ?_⟩
      · simp [← String.toList_inj, hs]
      · simp [← String.toList_inj, ht]
  · rintro (⟨rfl, rfl⟩ | ⟨x, rfl, rfl⟩)
    · decide +kernel
    · exact String.append_assoc

/-- The values that are there for every catalogue have names that no token gives. -/
theorem ne_append_of_mem_fixed : ∀ name ∈ ["CC_SPECIFIC_SCALE", "CC_SPECIFIC_SENSOR_TYPE",
    scaleMapName], ∀ token, name ≠ token ++ "_PROPERTY" ∧ name ≠ "UNIT_" ++ token := by
  have hfixed : ∀ name ∈ ["CC_SPECIFIC_SCALE", "CC_SPECIFIC_SENSOR_TYPE", scaleMapName],
      ¬ "_PROPERTY".toList <:+ name.toList ∧ ¬ "UNIT_".toList <+: name.toList := by
    decide +kernel
  refine fun name hname token => ⟨?_, ?_⟩
  · rintro rfl
    exact (hfixed _ hname).1 (String.toList_append ▸ List.suffix_append _ _)
  · rintro rfl
    exact (hfixed _ hname).2 (String.toList_append ▸ List.prefix_append _ _)

/-- No two values have one name unless a sensor type and a scale give it to them. -/
theorem nodup_valueNames_outline_iff :
    (valueNames (outline catalog)).Nodup ↔
      ∀ s ∈ catalog.sensors.keys, ∀ group ∈ catalog.groups.values, ∀ t ∈ group.scales.keys,
        ¬ GiveOneName s t := by
  simp only [giveOneName_iff]
  have hproperties : (catalog.sensors.keys.map (· ++ "_PROPERTY")).Nodup :=
    catalog.sensors.nodup_keys.map fun s t => (String.append_left_inj _).1
  have hunits : ((UnitIndex.ofGroups catalog.groups.values).keys.map ("UNIT_" ++ ·)).Nodup :=
    (Table.nodup_keys _).map fun s t => (String.append_right_inj _).1
  have hperm : (valueNames (outline catalog)).Perm
      ((["CC_SPECIFIC_SCALE", "CC_SPECIFIC_SENSOR_TYPE"] ++ [scaleMapName]) ++
        (catalog.sensors.keys.map (· ++ "_PROPERTY") ++
          (UnitIndex.ofGroups catalog.groups.values).keys.map ("UNIT_" ++ ·))) := by
    rw [valueNames_outline, List.append_assoc, List.append_assoc, List.append_assoc]
    exact (List.perm_append_comm_assoc _ _ _).append_left _
  have hfixed : ∀ name ∈ ["CC_SPECIFIC_SCALE", "CC_SPECIFIC_SENSOR_TYPE"] ++ [scaleMapName],
      ∀ other ∈ catalog.sensors.keys.map (· ++ "_PROPERTY") ++
        (UnitIndex.ofGroups catalog.groups.values).keys.map ("UNIT_" ++ ·), name ≠ other := by
    intro name hname other hother
    rcases List.mem_append.1 hother with hother | hother
    · obtain ⟨token, -, rfl⟩ := List.mem_map.1 hother
      exact (ne_append_of_mem_fixed name hname token).1
    · obtain ⟨token, -, rfl⟩ := List.mem_map.1 hother
      exact (ne_append_of_mem_fixed name hname token).2
  rw [hperm.nodup_iff, List.nodup_append, and_iff_right (by decide +kernel),
    and_iff_left hfixed, List.nodup_append, and_iff_right hproperties, and_iff_right hunits,
    List.forall_mem_map]
  refine forall₂_congr fun s _ => ?_
  rw [List.forall_mem_map]
  constructor
  · exact fun hall group hgroup t ht => hall t (UnitIndex.mem_keys_ofGroups.2 ⟨group, hgroup, ht⟩)
  · intro hall t ht
    obtain ⟨group, hgroup, ht⟩ := UnitIndex.mem_keys_ofGroups.1 ht
    exact hall group hgroup t ht

/-! ### The generated part -/

/-- **The names of the generated part.** The types of the module have different names. Its values
have different names exactly if there are no sensor type and scale whose tokens give one name. -/
theorem exists_render_names_iff (h : Catalog.build scales sensors rules = .ok catalog)
    (source : Source) :
    ∃ lines items, render catalog (UnitIndex.ofGroups catalog.groups.values) source = .ok lines ∧
      readLines .module lines = some (.module, items) ∧ (typeNames items).Nodup ∧
      ((valueNames items).Nodup ↔
        ∀ s ∈ catalog.sensors.keys, ∀ group ∈ catalog.groups.values, ∀ t ∈ group.scales.keys,
          ¬ GiveOneName s t) := by
  obtain ⟨lines, hrender, hread⟩ := exists_render_readLines_eq h source
  exact ⟨lines, _, hrender, hread, nodup_typeNames_outline h, nodup_valueNames_outline_iff⟩

end

/-- A document with a group that has a scale with a label. -/
def scaleWithLabel (label : String) : ScaleDocument :=
  Table.ofList [("g", Table.ofList [("0x00", ⟨label, none, none⟩)])]

/-- A document with a sensor type that has a label and the scales of the group. -/
def sensorOfGroup (label : String) : SensorDocument :=
  Table.ofList [("0x01", ⟨label, .shared "$SCALES:g"⟩)]

/-- A scale can be named for a property, and a sensor type for a unit. -/
theorem exists_render_nodup_valueNames : ∃ catalog lines items,
    Catalog.build (scaleWithLabel "Y property") (sensorOfGroup "Unit x") ⟨[]⟩ = .ok catalog ∧
      render catalog (UnitIndex.ofGroups catalog.groups.values) { } = .ok lines ∧
      readLines .module lines = some (.module, items) ∧ (typeNames items).Nodup ∧
      (valueNames items).Nodup := by
  obtain ⟨catalog, h, htokens⟩ := Fallible.exists_eq_ok_of_any
    (x := Catalog.build (scaleWithLabel "Y property") (sensorOfGroup "Unit x") ⟨[]⟩)
    (p := fun catalog => ∀ s ∈ catalog.sensors.keys, ∀ group ∈ catalog.groups.values,
      ∀ t ∈ group.scales.keys, s ++ "_PROPERTY" ≠ "UNIT_" ++ t) (by decide +kernel)
  obtain ⟨lines, items, hrender, hread, htypes, hvalues⟩ := exists_render_names_iff h { }
  refine ⟨catalog, lines, items, h, hrender, hread, htypes, hvalues.2 ?_⟩
  simpa only [giveOneName_iff] using of_decide_eq_true htokens

/-- **Two values can have one name**, and the documents are not refused. -/
theorem exists_render_not_nodup_valueNames : ∃ catalog lines items,
    Catalog.build (scaleWithLabel "X property") (sensorOfGroup "Unit x") ⟨[]⟩ = .ok catalog ∧
      render catalog (UnitIndex.ofGroups catalog.groups.values) { } = .ok lines ∧
      readLines .module lines = some (.module, items) ∧ ¬ (valueNames items).Nodup := by
  obtain ⟨catalog, h, htokens⟩ := Fallible.exists_eq_ok_of_any
    (x := Catalog.build (scaleWithLabel "X property") (sensorOfGroup "Unit x") ⟨[]⟩)
    (p := fun catalog => ∃ s ∈ catalog.sensors.keys, ∃ group ∈ catalog.groups.values,
      ∃ t ∈ group.scales.keys, s ++ "_PROPERTY" = "UNIT_" ++ t) (by decide +kernel)
  obtain ⟨s, hs, group, hgroup, t, ht, hname⟩ := of_decide_eq_true htokens
  obtain ⟨lines, hrender, hread⟩ := exists_render_readLines_eq h { }
  refine ⟨catalog, lines, _, h, hrender, hread, fun hnodup => ?_⟩
  exact nodup_valueNames_outline_iff.1 hnodup s hs group hgroup t ht (giveOneName_iff.2 hname)

end ConstantsFile

end SensorCatalog
