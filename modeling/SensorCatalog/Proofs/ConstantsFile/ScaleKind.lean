import SensorCatalog.Proofs.ConstantsFile.References
import Mathlib.Data.List.Find
import Std.Data.String.ToNat

/-!
# Scale classes by the number of a sensor type

A program that uses the constants file looks up the scale class of a sensor type in the map, and
takes the first row whose constant has the number of the sensor type. The rows tell sensor types
apart by their tokens, but this lookup tells them apart by their numbers alone. So it answers with
the class of the first sensor type, in the order of their tokens, that has the number; and it is
right for every sensor type exactly if sensor types with one number have the scales of one group.
Documents are not refused for a number that occurs twice, as it can be written in several ways.
The map that is looked at is the one in the lines of the generated part, which are lines of the
written file (`exists_render_lines_text_eq`).

## Main definitions

* `ConstantsFile.scaleKind?`: the lookup.
* `ConstantsFile.AnswersByNumber`: the lookup is right for every sensor type of a catalogue.

## Main results

* `ConstantsFile.scaleKind?_outline`: what the lookup answers.
* `ConstantsFile.exists_render_answersByNumber_iff`: when it is right.
-/

namespace SensorCatalog.ConstantsFile

namespace Item

/-- The number of the constant of the sensor type with a token. -/
def sensorNumber? (token : String) : Item → Option Nat
  | .constant type name value =>
    if type = sensorTypeName ∧ name = token then value.toNat? else none
  | _ => none

/-- The sensor type and the scale class of a row of the map. -/
def mapRow? : Item → Option (String × String)
  | .row table sensor c => if table = scaleMapName then some (sensor, c) else none
  | _ => none

end Item

/-- The scale class in the first row of the map whose constant has a number. -/
def scaleKind? (items : List Item) (id : UInt8) : Option String :=
  ((items.filterMap Item.mapRow?).find? fun row =>
    items.findSome? (Item.sensorNumber? row.1) = some id.toNat).map Prod.snd

/-- The lookup by number leads from each sensor type to the class of its own group. -/
def AnswersByNumber (catalog : Catalog) (items : List Item) : Prop :=
  ∀ e ∈ catalog.sensors.entries, ∃ group, catalog.groups.find? e.2.group = some group ∧
    scaleKind? items e.2.id = some group.className

/-! ### What the lookup answers -/

section

variable {catalog : Catalog}

theorem mapRows_outline (catalog : Catalog) :
    (outline catalog).filterMap Item.mapRow? =
      catalog.sensors.entries.map fun e => (e.1, Label.className e.2.group) := by
  simp [outline, Item.mapRow?, List.filterMap_cons, List.filterMap_flatMap, Function.comp_def]

theorem sensorConstant_mem_outline {token value : String} :
    .constant sensorTypeName token value ∈ outline catalog ↔
      ∃ e ∈ catalog.sensors.entries, e.1 = token ∧ toString e.2.id.toNat = value := by
  have hclass : ∀ group : ScaleGroup, group.className ≠ sensorTypeName :=
    fun group => (ne_className sensorTypeName (by simp) group).symm
  simp [outline, constantTypeItems, scaleTypesItems, unitListItems, sensorMembers, hclass]

theorem findSome?_sensorNumber?_outline {e : String × SensorType}
    (he : e ∈ catalog.sensors.entries) :
    (outline catalog).findSome? (Item.sensorNumber? e.1) = some e.2.id.toNat := by
  have hconstant : .constant sensorTypeName e.1 (toString e.2.id.toNat) ∈ outline catalog :=
    sensorConstant_mem_outline.2 ⟨e, he, rfl, rfl⟩
  cases hfound : (outline catalog).findSome? (Item.sensorNumber? e.1) with
  | none =>
    have hnone := List.findSome?_eq_none_iff.1 hfound _ hconstant
    simp [Item.sensorNumber?, Nat.toNat?_repr] at hnone
  | some number =>
    obtain ⟨item, hitem, hnumber⟩ := List.exists_of_findSome?_eq_some hfound
    unfold Item.sensorNumber? at hnumber
    split at hnumber
    · split_ifs at hnumber with hname
      obtain ⟨rfl, rfl⟩ := hname
      obtain ⟨e', he', htoken, rfl⟩ := sensorConstant_mem_outline.1 hitem
      obtain rfl := Table.eq_of_mem_entries he' he htoken
      exact hnumber.symm.trans (Nat.toNat?_repr _)
    · cases hnumber

/-- **What the lookup answers**: the class of the first sensor type with the number. -/
theorem scaleKind?_outline (catalog : Catalog) (id : UInt8) :
    scaleKind? (outline catalog) id =
      (catalog.sensors.entries.find? fun e => e.2.id = id).map fun e =>
        Label.className e.2.group := by
  have hnumber : ∀ e ∈ catalog.sensors.entries,
      decide ((outline catalog).findSome? (Item.sensorNumber? e.1) = some id.toNat) =
        decide (e.2.id = id) := by
    intro e he
    rw [findSome?_sensorNumber?_outline he, decide_eq_decide, Option.some.injEq,
      UInt8.toNat_inj]
  rw [scaleKind?, mapRows_outline, List.find?_map, Option.map_map]
  exact congrArg (Option.map _) (List.find?_congr hnumber)

end

/-! ### When the lookup is right -/

section

variable {scales : ScaleDocument} {sensors : SensorDocument} {rules : NameRules}
  {catalog : Catalog}

/-- Sensor types whose groups' classes have one name have one group. -/
theorem group_eq_of_className_eq (h : Catalog.build scales sensors rules = .ok catalog)
    {e e' : String × SensorType} (he : e ∈ catalog.sensors.entries)
    (he' : e' ∈ catalog.sensors.entries)
    (hclass : Label.className e.2.group = Label.className e'.2.group) :
    e.2.group = e'.2.group := by
  obtain ⟨group, hgroup, hname⟩ := Catalog.exists_group h he
  obtain ⟨group', hgroup', hname'⟩ := Catalog.exists_group h he'
  rw [← hname, ← hname'] at hclass ⊢
  have hsame : group = group' :=
    List.inj_on_of_nodup_map (Catalog.nodup_classNames h) (Table.mem_values.2 ⟨_, hgroup⟩)
      (Table.mem_values.2 ⟨_, hgroup'⟩) hclass
  rw [hsame]

/-- The lookup is right if it answers with the class named for the group of each sensor type. -/
theorem answersByNumber_iff (h : Catalog.build scales sensors rules = .ok catalog)
    {items : List Item} :
    AnswersByNumber catalog items ↔ ∀ e ∈ catalog.sensors.entries,
      scaleKind? items e.2.id = some (Label.className e.2.group) := by
  refine forall₂_congr fun e he => ?_
  obtain ⟨group, hgroup, hname⟩ := Catalog.exists_group h he
  rw [Table.find?_eq_some_iff.2 hgroup, ← hname]
  simp [ScaleGroup.className]

theorem answersByNumber_outline_iff (h : Catalog.build scales sensors rules = .ok catalog) :
    AnswersByNumber catalog (outline catalog) ↔
      ∀ e ∈ catalog.sensors.entries, ∀ e' ∈ catalog.sensors.entries, e.2.id = e'.2.id →
        e.2.group = e'.2.group := by
  rw [answersByNumber_iff h]
  constructor
  · intro hanswers e he e' he' hid
    have hsame := (hanswers e he).symm.trans ((congrArg _ hid).trans (hanswers e' he'))
    exact group_eq_of_className_eq h he he' (Option.some.inj hsame)
  · intro hsame e he
    rw [scaleKind?_outline]
    cases hfirst : catalog.sensors.entries.find? fun e' => e'.2.id = e.2.id with
    | none => exact absurd (decide_eq_true rfl) (List.find?_eq_none.1 hfirst e he)
    | some first =>
      have hid : first.2.id = e.2.id := by simpa using List.find?_some hfirst
      rw [Option.map_some, hsame first (List.mem_of_find?_eq_some hfirst) e he hid]

/-- **Scale classes by number.** In the generated part, the lookup by number answers with the class
of the first sensor type that has the number. It is right for every sensor type exactly if sensor
types with one number have the scales of one group. -/
theorem exists_render_answersByNumber_iff (h : Catalog.build scales sensors rules = .ok catalog)
    (source : Source) :
    ∃ lines items, render catalog (UnitIndex.ofGroups catalog.groups.values) source = .ok lines ∧
      readLines .module lines = some (.module, items) ∧
      (∀ id, scaleKind? items id =
        (catalog.sensors.entries.find? fun e => e.2.id = id).map fun e =>
          Label.className e.2.group) ∧
      (AnswersByNumber catalog items ↔
        ∀ e ∈ catalog.sensors.entries, ∀ e' ∈ catalog.sensors.entries, e.2.id = e'.2.id →
          e.2.group = e'.2.group) := by
  obtain ⟨lines, hrender, hread⟩ := exists_render_readLines_eq h source
  exact ⟨lines, _, hrender, hread, scaleKind?_outline catalog, answersByNumber_outline_iff h⟩

end

/-- A document with two sensor types that have scales of their own, listed under two keys. -/
def twoSensors (key key' : String) : SensorDocument :=
  Table.ofList [
    (key, ⟨"Air temperature", .own (Table.ofList [("0x00", ⟨"Celsius", none, none⟩)])⟩),
    (key', ⟨"Wind speed", .own (Table.ofList [("0x00", ⟨"Knots", none, none⟩)])⟩)]

/-- Sensor types with different numbers. -/
theorem exists_render_answersByNumber : ∃ catalog lines items,
    Catalog.build ∅ (twoSensors "0x0A" "0x0b") ⟨[]⟩ = .ok catalog ∧
      render catalog (UnitIndex.ofGroups catalog.groups.values) { } = .ok lines ∧
      readLines .module lines = some (.module, items) ∧ AnswersByNumber catalog items := by
  obtain ⟨catalog, h, hsame⟩ := Fallible.exists_eq_ok_of_any
    (x := Catalog.build ∅ (twoSensors "0x0A" "0x0b") ⟨[]⟩)
    (p := fun catalog => ∀ e ∈ catalog.sensors.entries, ∀ e' ∈ catalog.sensors.entries,
      e.2.id = e'.2.id → e.2.group = e'.2.group) (by decide +kernel)
  obtain ⟨lines, items, hrender, hread, -, hanswers⟩ := exists_render_answersByNumber_iff h { }
  exact ⟨catalog, lines, items, h, hrender, hread, hanswers.2 (of_decide_eq_true hsame)⟩

/-- **A number can be written in two ways**, and then the lookup answers for one sensor type with
the scales of another. -/
theorem exists_render_not_answersByNumber : ∃ catalog lines items,
    Catalog.build ∅ (twoSensors "0x0A" "0x0a") ⟨[]⟩ = .ok catalog ∧
      render catalog (UnitIndex.ofGroups catalog.groups.values) { } = .ok lines ∧
      readLines .module lines = some (.module, items) ∧
      scaleKind? items 10 = some "AirTemperatureScale" ∧
      (∃ sensor, catalog.sensors.find? "WIND_SPEED" = some sensor ∧ sensor.id = 10 ∧
        sensor.group = "Wind Speed") ∧
      ¬ AnswersByNumber catalog items := by
  obtain ⟨catalog, h, hentries⟩ := Fallible.exists_eq_ok_of_any
    (x := Catalog.build ∅ (twoSensors "0x0A" "0x0a") ⟨[]⟩)
    (p := fun catalog => catalog.sensors.entries =
      [("AIR_TEMPERATURE", ⟨10, "Air temperature", "Air Temperature"⟩),
        ("WIND_SPEED", ⟨10, "Wind speed", "Wind Speed"⟩)]) (by decide +kernel)
  have hentries := of_decide_eq_true hentries
  obtain ⟨lines, hrender, hread⟩ := exists_render_readLines_eq h { }
  have hanswer : scaleKind? (outline catalog) 10 = some "AirTemperatureScale" := by
    rw [scaleKind?_outline, hentries]
    decide +kernel
  have hwind : catalog.sensors.find? "WIND_SPEED" = some ⟨10, "Wind speed", "Wind Speed"⟩ :=
    Table.find?_eq_some_iff.2 (by simp [hentries])
  refine ⟨catalog, lines, _, h, hrender, hread, hanswer, ⟨_, hwind, rfl, rfl⟩, fun hanswers => ?_⟩
  have hsame := (answersByNumber_outline_iff h).1 hanswers
  rw [hentries] at hsame
  exact absurd (hsame _ List.mem_cons_self _ (List.mem_cons_of_mem _ List.mem_cons_self) rfl)
    (by decide)

end SensorCatalog.ConstantsFile
