import SensorCatalog.Proofs.Catalog.ExactIndex
import SensorCatalog.Proofs.ConstantsFile.ItemNames

/-!
# References between the sections

The sections of the generated part name each other's items: the rows of the map name constants of
sensor types and variants for scale classes, the members of the lists name variants and constants of
classes. Every name that is used is declared in the places where it must be and only once; and every
constant that is declared is used, the one of a sensor type in one row and the one of a scale in one
list. All this is said of the lines that the generated part is put together from; a written file has
the same lines (`exists_render_lines_text_eq`).

## Main definitions

* `ConstantsFile.DeclaresClass`: a scale class is declared in all its places.
* `ConstantsFile.IsClosed`: what is used is declared.
* `ConstantsFile.IsComplete`: what is declared is used.

## Main results

* `ConstantsFile.exists_render_isClosed_isComplete`: the references in the generated part.
-/

namespace SensorCatalog.ConstantsFile

namespace Item

/-- The name of a text. -/
def text? : Item → Option String
  | .text name => some name
  | _ => none

/-- The name of a type over a byte. -/
def struct? : Item → Option String
  | .struct name => some name
  | _ => none

/-- A variant and its enumeration. -/
def variant? : Item → Option (String × String)
  | .variant type name _ => some (type, name)
  | _ => none

/-- A constant and its type. -/
def constant? : Item → Option (String × String)
  | .constant type name _ => some (type, name)
  | _ => none

/-- The variant of a case, and the type and the name of its function. -/
def arm? : Item → Option (String × String × String)
  | .arm type name v _ => some (type, name, v)
  | _ => none

/-- The trait of an implementation with its argument, and the type. -/
def traitOf? : Item → Option (String × String × String)
  | .traitOf type trait argument => some (type, trait, argument)
  | _ => none

/-- The sensor type of a row. -/
def rowSensor? : Item → Option String
  | .row _ sensor _ => some sensor
  | _ => none

/-- The class and the token of a member. -/
def member? : Item → Option (String × String)
  | .member _ _ c token => some (c, token)
  | _ => none

end Item

/-- A scale class is declared once as a type, as a variant of both enumerations, as a case of the
function that leads from one to the other, and as what all scales are made from. -/
structure DeclaresClass (items : List Item) (c : String) : Prop where
  struct : (items.filterMap Item.struct?).count c = 1
  scaleType : (items.filterMap Item.variant?).count (scaleTypeName, c) = 1
  scaleKind : (items.filterMap Item.variant?).count (scaleKindName, c) = 1
  kind : (items.filterMap Item.arm?).count (scaleTypeName, "kind", c) = 1 ∧
    .arm scaleTypeName "kind" c c ∈ items
  conversion : (items.filterMap Item.traitOf?).count (scaleTypeName, "From", c) = 1

/-- What is used is declared. -/
structure IsClosed (items : List Item) : Prop where
  /-- A row names a constant and a class. -/
  row : ∀ list sensor c, .row list sensor c ∈ items → list = scaleMapName ∧
    (items.filterMap Item.constant?).count (sensorTypeName, sensor) = 1 ∧ DeclaresClass items c
  /-- A member names a constant of a class, and stands in the list of its token. -/
  member : ∀ list v c token, .member list v c token ∈ items → list = "UNIT_" ++ token ∧ v = c ∧
    (items.filterMap Item.constant?).count (c, token) = 1 ∧ DeclaresClass items c

/-- What is declared is used. -/
structure IsComplete (items : List Item) : Prop where
  /-- A sensor type has one row and one label. -/
  sensor : ∀ token, (sensorTypeName, token) ∈ items.filterMap Item.constant? →
    (items.filterMap Item.rowSensor?).count token = 1 ∧
      (items.filterMap Item.text?).count (token ++ "_PROPERTY") = 1
  /-- A scale is a member of one list, once. -/
  scale : ∀ c token, c ≠ sensorTypeName → (c, token) ∈ items.filterMap Item.constant? →
    (items.filterMap Item.member?).count (c, token) = 1

/-! ### The items of a catalogue -/

section Outline

variable (catalog : Catalog)

/-- The names of the scale classes of a catalogue. -/
abbrev classesOf (catalog : Catalog) : List String :=
  catalog.groups.values.map ScaleGroup.className

theorem texts_outline :
    (outline catalog).filterMap Item.text? = ["CC_SPECIFIC_SCALE", "CC_SPECIFIC_SENSOR_TYPE"] ++
      catalog.sensors.keys.map (· ++ "_PROPERTY") := by
  simp [outline, Item.text?, List.filterMap_cons, List.filterMap_flatMap, Function.comp_def,
    Table.keys]

theorem structs_outline :
    (outline catalog).filterMap Item.struct? = sensorTypeName :: classesOf catalog := by
  simp [outline, Item.struct?, List.filterMap_cons, List.filterMap_flatMap, Function.comp_def,
    ← List.map_eq_flatMap]

theorem variants_outline :
    (outline catalog).filterMap Item.variant? =
      (classesOf catalog).map (scaleTypeName, ·) ++ (classesOf catalog).map (scaleKindName, ·) := by
  simp [outline, Item.variant?, List.filterMap_cons, List.filterMap_flatMap, Function.comp_def]

theorem arms_outline :
    (outline catalog).filterMap Item.arm? = (classesOf catalog).map (scaleTypeName, "kind", ·) := by
  simp [outline, Item.arm?, List.filterMap_cons, List.filterMap_flatMap, Function.comp_def]

theorem traitsOf_outline :
    (outline catalog).filterMap Item.traitOf? =
      (classesOf catalog).map (scaleTypeName, "From", ·) := by
  simp [outline, Item.traitOf?, List.filterMap_cons, List.filterMap_flatMap, Function.comp_def]

theorem constants_outline :
    (outline catalog).filterMap Item.constant? = catalog.sensors.keys.map (sensorTypeName, ·) ++
      catalog.groups.values.flatMap fun group => group.scales.keys.map (group.className, ·) := by
  simp [outline, Item.constant?, List.filterMap_cons, List.filterMap_flatMap, Function.comp_def,
    Table.keys, sensorMembers, scaleMembers]

theorem rowSensors_outline :
    (outline catalog).filterMap Item.rowSensor? = catalog.sensors.keys := by
  simp [outline, Item.rowSensor?, List.filterMap_cons, List.filterMap_flatMap,
    Function.comp_def, Table.keys]

theorem members_outline :
    (outline catalog).filterMap Item.member? =
      (UnitIndex.ofGroups catalog.groups.values).entries.flatMap fun e =>
        e.2.map fun m => (m.className, m.token) := by
  simp [outline, Item.member?, List.filterMap_cons, List.filterMap_flatMap, Function.comp_def]

variable {catalog}

theorem row_mem_outline {list sensor c : String} :
    .row list sensor c ∈ outline catalog ↔ ∃ e ∈ catalog.sensors.entries,
      e.1 = sensor ∧ scaleMapName = list ∧ Label.className e.2.group = c := by
  simp [outline, constantTypeItems, scaleTypesItems, unitListItems]

theorem member_mem_outline {list v c token : String} :
    .member list v c token ∈ outline catalog ↔
      ∃ e ∈ (UnitIndex.ofGroups catalog.groups.values).entries, ∃ m ∈ e.2,
        "UNIT_" ++ e.1 = list ∧ m.className = v ∧ m.className = c ∧ m.token = token := by
  simp [outline, constantTypeItems, scaleTypesItems, unitListItems]

end Outline

/-! ### Nothing is declared twice -/

section

variable {scales : ScaleDocument} {sensors : SensorDocument} {rules : NameRules}
  {catalog : Catalog}

theorem nodup_texts (catalog : Catalog) : ((outline catalog).filterMap Item.text?).Nodup := by
  rw [texts_outline, List.nodup_append]
  refine ⟨by decide +kernel,
    catalog.sensors.nodup_keys.map fun s t => (String.append_left_inj _).1, ?_⟩
  intro name hname other hother
  obtain ⟨token, -, rfl⟩ := List.mem_map.1 hother
  exact (ne_append_of_mem_fixed name (List.mem_append_left _ hname) token).1

theorem nodup_structs (h : Catalog.build scales sensors rules = .ok catalog) :
    ((outline catalog).filterMap Item.struct?).Nodup := by
  rw [structs_outline, List.nodup_cons]
  refine ⟨fun hmem => ?_, Catalog.nodup_classNames h⟩
  obtain ⟨group, -, hname⟩ := List.mem_map.1 hmem
  exact ne_className sensorTypeName (by simp) group hname.symm

theorem nodup_map_mk {α β : Type} (a : α) {l : List β} (h : l.Nodup) : (l.map (a, ·)).Nodup :=
  h.map fun _ _ heq => (Prod.mk.inj heq).2

theorem nodup_variants (h : Catalog.build scales sensors rules = .ok catalog) :
    ((outline catalog).filterMap Item.variant?).Nodup := by
  have hclasses := Catalog.nodup_classNames h
  rw [variants_outline, List.nodup_append]
  refine ⟨nodup_map_mk _ hclasses, nodup_map_mk _ hclasses, fun x hx y hy heq => ?_⟩
  obtain ⟨c, -, rfl⟩ := List.mem_map.1 hx
  obtain ⟨c', -, rfl⟩ := List.mem_map.1 hy
  exact absurd (Prod.mk.inj heq).1 (by decide +kernel)

theorem injective_classAndToken :
    Function.Injective fun m : ClassMember => (m.className, m.token) := by
  rintro ⟨c, token⟩ ⟨c', token'⟩ heq
  exact congrArg₂ ClassMember.mk (Prod.mk.inj heq).1 (Prod.mk.inj heq).2

theorem nodup_constants (h : Catalog.build scales sensors rules = .ok catalog) :
    ((outline catalog).filterMap Item.constant?).Nodup := by
  rw [constants_outline, List.nodup_append]
  refine ⟨nodup_map_mk _ catalog.sensors.nodup_keys, ?_, fun x hx y hy heq => ?_⟩
  · have hmembers := UnitIndex.nodup_flatMap_membersOf (Catalog.nodup_classNames h)
    simpa [List.map_flatMap, UnitIndex.membersOf, Function.comp_def] using
      hmembers.map injective_classAndToken
  · obtain ⟨token, -, rfl⟩ := List.mem_map.1 hx
    obtain ⟨group, -, hy⟩ := List.mem_flatMap.1 hy
    obtain ⟨token', -, rfl⟩ := List.mem_map.1 hy
    exact ne_className sensorTypeName (by simp) group (Prod.mk.inj heq).1

theorem nodup_members (catalog : Catalog) : ((outline catalog).filterMap Item.member?).Nodup := by
  have hmembers := UnitIndex.nodup_flatten_values catalog.groups.values
  rw [members_outline]
  simpa [List.map_flatten, List.flatMap_def, Table.values, Function.comp_def] using
    hmembers.map injective_classAndToken

/-! ### What is used is declared -/

theorem declaresClass_outline (h : Catalog.build scales sensors rules = .ok catalog) {c : String}
    (hc : c ∈ classesOf catalog) : DeclaresClass (outline catalog) c where
  struct := List.count_eq_one_of_mem (nodup_structs h)
    (structs_outline catalog ▸ List.mem_cons_of_mem _ hc)
  scaleType := List.count_eq_one_of_mem (nodup_variants h)
    (variants_outline catalog ▸ List.mem_append_left _ (List.mem_map_of_mem hc))
  scaleKind := List.count_eq_one_of_mem (nodup_variants h)
    (variants_outline catalog ▸ List.mem_append_right _ (List.mem_map_of_mem hc))
  kind := by
    have harms : ((outline catalog).filterMap Item.arm?).Nodup :=
      arms_outline catalog ▸ (Catalog.nodup_classNames h).map fun c c' heq => by simpa using heq
    refine ⟨List.count_eq_one_of_mem harms (arms_outline catalog ▸ List.mem_map_of_mem hc), ?_⟩
    simpa [outline, constantTypeItems, scaleTypesItems, unitListItems] using hc
  conversion := by
    have htraits : ((outline catalog).filterMap Item.traitOf?).Nodup :=
      traitsOf_outline catalog ▸ (Catalog.nodup_classNames h).map fun c c' heq => by simpa using heq
    exact List.count_eq_one_of_mem htraits (traitsOf_outline catalog ▸ List.mem_map_of_mem hc)

theorem isClosed_outline (h : Catalog.build scales sensors rules = .ok catalog) :
    IsClosed (outline catalog) where
  row := by
    intro list sensor c hrow
    obtain ⟨e, he, rfl, rfl, rfl⟩ := row_mem_outline.1 hrow
    have hsensor : (sensorTypeName, e.1) ∈ (outline catalog).filterMap Item.constant? :=
      constants_outline catalog ▸ List.mem_append_left _
        (List.mem_map_of_mem (List.mem_map_of_mem he))
    obtain ⟨group, hgroup, hname⟩ := Catalog.exists_group h he
    have hc : Label.className e.2.group ∈ classesOf catalog :=
      List.mem_map.2 ⟨group, Table.mem_values.2 ⟨_, hgroup⟩, congrArg Label.className hname⟩
    exact ⟨rfl, List.count_eq_one_of_mem (nodup_constants h) hsensor, declaresClass_outline h hc⟩
  member := by
    intro list v c token hmember
    obtain ⟨e, he, m, hm, rfl, rfl, rfl, rfl⟩ := member_mem_outline.1 hmember
    have hindex := UnitIndex.isIndexOf_ofGroups catalog.groups.values
    obtain ⟨hm, htoken⟩ := (hindex.mem_iff e he m).1 hm
    obtain ⟨group, hgroup, hm⟩ := List.mem_flatMap.1 hm
    obtain ⟨hclass, hkey⟩ := UnitIndex.mem_membersOf.1 hm
    have hconstant : (m.className, m.token) ∈ (outline catalog).filterMap Item.constant? := by
      rw [constants_outline, hclass]
      exact List.mem_append_right _ (List.mem_flatMap.2 ⟨group, hgroup, List.mem_map_of_mem hkey⟩)
    exact ⟨by rw [htoken], rfl, List.count_eq_one_of_mem (nodup_constants h) hconstant,
      declaresClass_outline h (hclass ▸ List.mem_map_of_mem hgroup)⟩

/-! ### What is declared is used -/

theorem isComplete_outline (catalog : Catalog) : IsComplete (outline catalog) where
  sensor := by
    intro token hconstant
    have htoken : token ∈ catalog.sensors.keys := by
      rw [constants_outline, List.mem_append] at hconstant
      rcases hconstant with hconstant | hconstant
      · obtain ⟨token', htoken, heq⟩ := List.mem_map.1 hconstant
        exact (Prod.mk.inj heq).2 ▸ htoken
      · obtain ⟨group, -, hconstant⟩ := List.mem_flatMap.1 hconstant
        obtain ⟨token', -, heq⟩ := List.mem_map.1 hconstant
        exact absurd (Prod.mk.inj heq).1.symm (ne_className sensorTypeName (by simp) group)
    rw [rowSensors_outline]
    exact ⟨List.count_eq_one_of_mem catalog.sensors.nodup_keys htoken,
      List.count_eq_one_of_mem (nodup_texts catalog)
        (texts_outline catalog ▸ List.mem_append_right _ (List.mem_map_of_mem htoken))⟩
  scale := by
    intro c token hne hconstant
    rw [constants_outline, List.mem_append] at hconstant
    rcases hconstant with hconstant | hconstant
    · obtain ⟨token', -, heq⟩ := List.mem_map.1 hconstant
      exact absurd (Prod.mk.inj heq).1.symm hne
    · obtain ⟨group, hgroup, hconstant⟩ := List.mem_flatMap.1 hconstant
      obtain ⟨token, htoken, heq⟩ := List.mem_map.1 hconstant
      obtain ⟨rfl, rfl⟩ := Prod.mk.inj heq
      have hindex := UnitIndex.isIndexOf_ofGroups catalog.groups.values
      have hmember : ⟨group.className, token⟩ ∈ catalog.groups.values.flatMap UnitIndex.membersOf :=
        List.mem_flatMap.2 ⟨group, hgroup, UnitIndex.mem_membersOf.2 ⟨rfl, htoken⟩⟩
      obtain ⟨listed, hlisted⟩ := Table.contains_iff.1 (hindex.contains _ hmember)
      refine List.count_eq_one_of_mem (nodup_members catalog) ?_
      rw [members_outline]
      exact List.mem_flatMap.2 ⟨_, hlisted, List.mem_map.2
        ⟨_, (hindex.mem_iff _ hlisted _).2 ⟨hmember, rfl⟩, rfl⟩⟩

/-! ### The generated part -/

/-- **The references in the generated part.** It declares the sensor types, the scale classes and
the scales of the catalogue; what its sections use of each other is declared, and what is declared
is used. -/
theorem exists_render_isClosed_isComplete (h : Catalog.build scales sensors rules = .ok catalog)
    (source : Source) :
    ∃ lines items, render catalog (UnitIndex.ofGroups catalog.groups.values) source = .ok lines ∧
      readLines .module lines = some (.module, items) ∧
      items.filterMap Item.struct? =
        sensorTypeName :: catalog.groups.values.map ScaleGroup.className ∧
      items.filterMap Item.constant? = catalog.sensors.keys.map (sensorTypeName, ·) ++
        (catalog.groups.values.flatMap fun group => group.scales.keys.map (group.className, ·)) ∧
      IsClosed items ∧ IsComplete items := by
  obtain ⟨lines, hrender, hread⟩ := exists_render_readLines_eq h source
  exact ⟨lines, _, hrender, hread, structs_outline catalog, constants_outline catalog,
    isClosed_outline h, isComplete_outline catalog⟩

end

/-- A document with a group of two scales. -/
def temperatureScales : ScaleDocument :=
  Table.ofList [("temperature",
    Table.ofList [("0x00", ⟨"Celsius", none, none⟩), ("0x01", ⟨"Fahrenheit", none, none⟩)])]

/-- A document with a sensor type that has the scales of the group, and one that has a scale of its
own with the label of one of them. -/
def temperatureSensors : SensorDocument :=
  Table.ofList [("0x01", ⟨"Air temperature", .shared "$SCALES:temperature"⟩),
    ("0x02", ⟨"Dew point", .own (Table.ofList [("0x00", ⟨"Celsius", none, none⟩)])⟩)]

/-- Two classes can have a constant of one name. -/
theorem exists_render_isClosed_two_classes : ∃ catalog lines items,
    Catalog.build temperatureScales temperatureSensors ⟨[]⟩ = .ok catalog ∧
      render catalog (UnitIndex.ofGroups catalog.groups.values) { } = .ok lines ∧
      readLines .module lines = some (.module, items) ∧
      items.filterMap Item.constant? = [(sensorTypeName, "AIR_TEMPERATURE"),
        (sensorTypeName, "DEW_POINT"), ("DewPointScale", "CELSIUS"),
        ("TemperatureScale", "CELSIUS"), ("TemperatureScale", "FAHRENHEIT")] ∧
      IsClosed items ∧ IsComplete items := by
  obtain ⟨catalog, h, hconstants⟩ := Fallible.exists_eq_ok_of_any
    (x := Catalog.build temperatureScales temperatureSensors ⟨[]⟩)
    (p := fun catalog => catalog.sensors.keys.map (sensorTypeName, ·) ++
      (catalog.groups.values.flatMap fun group => group.scales.keys.map (group.className, ·)) =
        [(sensorTypeName, "AIR_TEMPERATURE"), (sensorTypeName, "DEW_POINT"),
          ("DewPointScale", "CELSIUS"), ("TemperatureScale", "CELSIUS"),
          ("TemperatureScale", "FAHRENHEIT")]) (by decide +kernel)
  obtain ⟨lines, items, hrender, hread, -, hitems, hclosed, hcomplete⟩ :=
    exists_render_isClosed_isComplete h { }
  exact ⟨catalog, lines, items, h, hrender, hread, hitems.trans (of_decide_eq_true hconstants),
    hclosed, hcomplete⟩

end SensorCatalog.ConstantsFile
