import SensorCatalog.Proofs.ConstantsFile.References
import SensorCatalog.Proofs.ConstantsFile.Remark
import SensorCatalog.Proofs.Text.Unquoted
import Mathlib.Data.List.Flatten
import Std.Data.String.ToNat

/-!
# What the generated part publishes

The generated part publishes the sensor types of a catalogue and, of its groups, the names and the
tokens and numbers of their scales. It does not show the labels of scales, nor where groups come
from. All that is published can be found in it: the items that it declares tell the tokens, the
numbers and the classes, and with these it is known which line is the label of which sensor type and
which one is the remark on which group.

## Main definitions

* `ConstantsFile.publishedGroups`: what is published of the groups of a catalogue.

## Main results

* `ConstantsFile.members_eq_of_outline_eq`, `ConstantsFile.classes_eq_of_outline_eq`: what the items
  tell.
* `ConstantsFile.sections_eq_of_generatedLines_eq`: which lines are whose.
* `ConstantsFile.render_eq_render_iff`: catalogues with one generated part.
-/

namespace SensorCatalog.ConstantsFile

/-! ### Lists that are told by what is made of them -/

section

variable {α β γ : Type} {l l' : List α} {f : α → β} {g : α → γ}

theorem map_mk_eq_map_mk (hf : l.map f = l'.map f) (hg : l.map g = l'.map g) :
    l.map (fun a => (f a, g a)) = l'.map (fun a => (f a, g a)) := by
  rw [← List.zip_map', hf, hg, List.zip_map']

theorem map_eq_map_of_forall (h : l.map f = l'.map f)
    (hfg : ∀ a ∈ l, ∀ a' ∈ l', f a = f a' → g a = g a') : l.map g = l'.map g := by
  induction l generalizing l' with
  | nil => rw [List.map_eq_nil_iff.1 h.symm]
  | cons a l ih =>
    cases l' with
    | nil => cases h
    | cons a' l' =>
      obtain ⟨ha, hl⟩ := List.cons.inj h
      rw [List.map_cons, List.map_cons, hfg a List.mem_cons_self a' List.mem_cons_self ha,
        ih hl fun b hb b' hb' => hfg b (List.mem_cons_of_mem _ hb) b' (List.mem_cons_of_mem _ hb')]

end

/-- What a list with different keys holds under one of its keys. -/
theorem flatMap_ite_key_eq {α β : Type} {l : List α} {key : α → String} {f : α → List β} {a : α}
    (hl : (l.map key).Nodup) (ha : a ∈ l) :
    (l.flatMap fun b => if key b = key a then f b else []) = f a := by
  induction l with
  | nil => cases ha
  | cons b l ih =>
    obtain ⟨hb, hl⟩ := List.nodup_cons.1 hl
    rw [List.flatMap_cons]
    rcases List.mem_cons.1 ha with rfl | ha
    · rw [if_pos rfl, List.flatMap_eq_nil_iff.2, List.append_nil]
      intro b hmem
      refine if_neg fun heq => hb ?_
      rw [← heq]
      exact List.mem_map_of_mem hmem
    · have hne : key b ≠ key a := fun heq => hb (heq ▸ List.mem_map_of_mem ha)
      rw [if_neg hne, List.nil_append, ih hl ha]

/-- What is published of the groups of a catalogue: their names, and the tokens and the numbers of
their scales. -/
def publishedGroups (catalog : Catalog) : List (String × List (String × UInt8)) :=
  catalog.groups.values.map fun group => (group.name, scaleMembers group)

/-! ### What is written of what is published -/

section

variable {catalog catalog' : Catalog}

theorem map_eq_of_publishedGroups_eq (h : publishedGroups catalog = publishedGroups catalog')
    {α : Type} (f : String × List (String × UInt8) → α) :
    catalog.groups.values.map (fun group => f (group.name, scaleMembers group)) =
      catalog'.groups.values.map (fun group => f (group.name, scaleMembers group)) := by
  have hmap := congrArg (List.map f) h
  rwa [publishedGroups, publishedGroups, List.map_map, List.map_map] at hmap

theorem membersOf_eq_map (group : ScaleGroup) :
    UnitIndex.membersOf group =
      (scaleMembers group).map fun m => ⟨Label.className group.name, m.1⟩ := by
  rw [UnitIndex.membersOf, scaleMembers, Table.keys, List.map_map, List.map_map]
  rfl

/-- The generated part is written from what is published. -/
theorem generatedLines_congr (hsensors : catalog.sensors = catalog'.sensors)
    (hgroups : publishedGroups catalog = publishedGroups catalog') (reference : String) :
    generatedLines catalog reference = generatedLines catalog' reference := by
  have hclasses : catalog.groups.values.map ScaleGroup.className =
      catalog'.groups.values.map ScaleGroup.className :=
    map_eq_of_publishedGroups_eq hgroups fun g => Label.className g.1
  have htypes : catalog.groups.values.map (scaleClass reference) =
      catalog'.groups.values.map (scaleClass reference) :=
    map_eq_of_publishedGroups_eq hgroups fun g =>
      constantType (Label.className g.1) g.2 (some reference) ("scales for " ++ g.1)
  have hunits : UnitIndex.ofGroups catalog.groups.values =
      UnitIndex.ofGroups catalog'.groups.values := by
    have hmembers := map_eq_of_publishedGroups_eq hgroups fun g =>
      g.2.map fun m => ClassMember.mk (Label.className g.1) m.1
    simp only [← membersOf_eq_map] at hmembers
    rw [UnitIndex.ofGroups, UnitIndex.ofGroups, List.flatMap_def, List.flatMap_def, hmembers]
  rw [generatedLines, generatedLines, sensorMembers, sensorMembers, hsensors,
    hclasses, List.flatMap_def, List.flatMap_def, htypes, hunits]

end

/-! ### What the items tell -/

namespace Item

/-- A constant, its type and its value. -/
def value? : Item → Option (String × String × String)
  | .constant type token value => some (type, token, value)
  | _ => none

/-- The class of a row. -/
def rowClass? : Item → Option String
  | .row _ _ c => some c
  | _ => none

end Item

/-- The constants of the type with a name. -/
def valuesOf (items : List Item) (name : String) : List (String × String × String) :=
  (items.filterMap Item.value?).filter fun v => v.1 == name

/-- The constants of a type, as the members of the type are written. -/
def writtenMembers (name : String) (members : List (String × UInt8)) :
    List (String × String × String) :=
  members.map fun m => (name, m.1, toString m.2.toNat)

theorem writtenMembers_injective (name : String) : Function.Injective (writtenMembers name) := by
  refine List.map_injective_iff.2 fun m m' h => ?_
  obtain ⟨htoken, hvalue⟩ := Prod.mk.inj (Prod.mk.inj h).2
  exact Prod.ext htoken (UInt8.toNat_inj.1 (Nat.repr_injective hvalue))

theorem filter_writtenMembers (type name : String) (members : List (String × UInt8)) :
    (writtenMembers type members).filter (fun v => v.1 == name) =
      if type = name then writtenMembers type members else [] := by
  rw [writtenMembers, List.filter_map]
  by_cases h : type = name <;> simp [Function.comp_def, h]

theorem values_outline (catalog : Catalog) :
    (outline catalog).filterMap Item.value? =
      writtenMembers sensorTypeName (sensorMembers catalog) ++
        catalog.groups.values.flatMap fun group =>
          writtenMembers group.className (scaleMembers group) := by
  simp [outline, Item.value?, List.filterMap_cons, List.filterMap_flatMap, Function.comp_def,
    writtenMembers]

theorem rowClasses_outline (catalog : Catalog) :
    (outline catalog).filterMap Item.rowClass? =
      catalog.sensors.entries.map fun e => Label.className e.2.group := by
  simp [outline, Item.rowClass?, List.filterMap_cons, List.filterMap_flatMap, Function.comp_def]

section

variable {scales : ScaleDocument} {sensors : SensorDocument} {rules : NameRules}
  {catalog : Catalog}

theorem valuesOf_outline_sensorTypeName (catalog : Catalog) :
    valuesOf (outline catalog) sensorTypeName =
      writtenMembers sensorTypeName (sensorMembers catalog) := by
  have hne : ∀ group : ScaleGroup, group.className ≠ sensorTypeName := fun group =>
    (ne_className sensorTypeName (by simp) group).symm
  simp [valuesOf, values_outline, List.filter_flatMap, filter_writtenMembers, hne]

theorem valuesOf_outline_className (h : Catalog.build scales sensors rules = .ok catalog)
    {group : ScaleGroup} (hgroup : group ∈ catalog.groups.values) :
    valuesOf (outline catalog) group.className =
      writtenMembers group.className (scaleMembers group) := by
  have hne : sensorTypeName ≠ group.className := ne_className sensorTypeName (by simp) group
  rw [valuesOf, values_outline, List.filter_append, filter_writtenMembers, if_neg hne,
    List.nil_append, List.filter_flatMap]
  simp only [filter_writtenMembers]
  exact flatMap_ite_key_eq (Catalog.nodup_classNames h) hgroup

/-- **The classes and their members** that the items tell. -/
theorem classes_outline (h : Catalog.build scales sensors rules = .ok catalog) :
    ((outline catalog).filterMap Item.struct?).tail.map
        (fun c => (c, valuesOf (outline catalog) c)) =
      catalog.groups.values.map fun group =>
        (group.className, writtenMembers group.className (scaleMembers group)) := by
  rw [structs_outline, List.tail_cons, classesOf, List.map_map]
  exact List.map_congr_left fun group hgroup =>
    congrArg (group.className, ·) (valuesOf_outline_className h hgroup)

variable {scales' : ScaleDocument} {sensors' : SensorDocument} {rules' : NameRules}
  {catalog' : Catalog}

theorem sensorMembers_eq_of_outline_eq (h : outline catalog = outline catalog') :
    sensorMembers catalog = sensorMembers catalog' := by
  refine writtenMembers_injective sensorTypeName ?_
  rw [← valuesOf_outline_sensorTypeName, h, valuesOf_outline_sensorTypeName]

theorem classes_eq_of_outline_eq (h : Catalog.build scales sensors rules = .ok catalog)
    (h' : Catalog.build scales' sensors' rules' = .ok catalog')
    (heq : outline catalog = outline catalog') :
    catalog.groups.values.map (fun group => (group.className, scaleMembers group)) =
      catalog'.groups.values.map (fun group => (group.className, scaleMembers group)) := by
  have hclasses := classes_outline h
  rw [heq, classes_outline h'] at hclasses
  refine map_eq_map_of_forall hclasses.symm fun group _ group' _ hgroup => ?_
  obtain ⟨hclass, hmembers⟩ := Prod.mk.inj hgroup
  rw [hclass] at hmembers ⊢
  rw [writtenMembers_injective _ hmembers]

theorem rowClasses_eq_of_outline_eq (h : outline catalog = outline catalog') :
    catalog.sensors.entries.map (fun e => Label.className e.2.group) =
      catalog'.sensors.entries.map (fun e => Label.className e.2.group) := by
  rw [← rowClasses_outline, h, rowClasses_outline]

/-! ### Which lines are whose -/

/-- **Which lines are whose.** If two catalogues have as many sensor types, the same classes and as
many members of each, then in one generated part the labels and the types of both are the same
lines. -/
theorem sections_eq_of_generatedLines_eq {reference : String}
    (heq : generatedLines catalog reference = generatedLines catalog' reference)
    (hsensors : sensorMembers catalog = sensorMembers catalog')
    (hclasses : catalog.groups.values.map (fun group => (group.className, scaleMembers group)) =
      catalog'.groups.values.map (fun group => (group.className, scaleMembers group))) :
    catalog.sensors.entries.map (fun e => property e.1 e.2) =
        catalog'.sensors.entries.map (fun e => property e.1 e.2) ∧
      catalog.groups.values.map (scaleClass reference) =
        catalog'.groups.values.map (scaleClass reference) := by
  have hclassNames : catalog.groups.values.map ScaleGroup.className =
      catalog'.groups.values.map ScaleGroup.className :=
    map_eq_map_of_forall hclasses fun _ _ _ _ hgroup => (Prod.mk.inj hgroup).1
  have hlengths : catalog.groups.values.map (List.length ∘ scaleClass reference) =
      catalog'.groups.values.map (List.length ∘ scaleClass reference) :=
    map_eq_map_of_forall hclasses fun group _ group' _ hgroup => by
      simp [scaleClass, constantType, (Prod.mk.inj hgroup).2]
  have hcount : catalog.sensors.entries.length = catalog'.sensors.entries.length := by
    simpa [sensorMembers] using congrArg List.length hsensors
  simp only [generatedLines, hsensors, hclassNames, List.append_assoc, List.append_cancel_left_eq]
    at heq
  obtain ⟨hproperties, heq⟩ := List.append_inj heq (by simpa using hcount)
  simp only [List.append_cancel_left_eq] at heq
  have hflat : (catalog.groups.values.flatMap (scaleClass reference)).length =
      (catalog'.groups.values.flatMap (scaleClass reference)).length := by
    rw [List.length_flatMap, List.length_flatMap]
    exact congrArg List.sum hlengths
  refine ⟨hproperties, List.eq_iff_flatten_eq.2 ⟨?_, ?_⟩⟩
  · rw [← List.flatMap_def, ← List.flatMap_def]
    exact (List.append_inj heq hflat).1
  · rw [List.map_map, List.map_map, hlengths]

theorem label_eq_of_property_eq {token : String} {sensor sensor' : SensorType}
    (h : property token sensor = property token sensor') : sensor.label = sensor'.label := by
  rw [property, property, String.append_left_inj, String.append_right_inj] at h
  exact Quoted.quote_injective h

theorem name_eq_of_scaleClass_eq (h : Catalog.build scales sensors rules = .ok catalog)
    (h' : Catalog.build scales' sensors' rules' = .ok catalog') {reference : String}
    {group group' : ScaleGroup} (hgroup : group ∈ catalog.groups.values)
    (hgroup' : group' ∈ catalog'.groups.values)
    (heq : scaleClass reference group = scaleClass reference group') :
    group.name = group'.name := by
  obtain ⟨label, hname⟩ := Catalog.exists_displayName_eq h hgroup
  obtain ⟨label', hname'⟩ := Catalog.exists_displayName_eq h' hgroup'
  have hremark := String.ofList_inj.1 (List.head_eq_of_cons_eq heq)
  rw [hname, hname'] at hremark ⊢
  exact displayName_eq_of_remark_eq hremark

/-- The name of a sensor type's group is among the names of the groups. -/
theorem group_mem_names (h : Catalog.build scales sensors rules = .ok catalog)
    {e : String × SensorType} (he : e ∈ catalog.sensors.entries) :
    e.2.group ∈ catalog.groups.values.map ScaleGroup.name := by
  obtain ⟨group, hgroup, hname⟩ := Catalog.exists_group h he
  exact List.mem_map.2 ⟨group, Table.mem_values.2 ⟨_, hgroup⟩, hname⟩

theorem sensors_eq_of_properties_eq (h : Catalog.build scales sensors rules = .ok catalog)
    (h' : Catalog.build scales' sensors' rules' = .ok catalog')
    (hmembers : sensorMembers catalog = sensorMembers catalog')
    (hproperties : catalog.sensors.entries.map (fun e => property e.1 e.2) =
      catalog'.sensors.entries.map (fun e => property e.1 e.2))
    (hclasses : catalog.sensors.entries.map (fun e => Label.className e.2.group) =
      catalog'.sensors.entries.map (fun e => Label.className e.2.group))
    (hnames : catalog.groups.values.map ScaleGroup.name =
      catalog'.groups.values.map ScaleGroup.name) :
    catalog.sensors = catalog'.sensors := by
  have hnodup : ((catalog.groups.values.map ScaleGroup.name).map Label.className).Nodup := by
    rw [List.map_map]
    exact Catalog.nodup_classNames h
  have hentries := map_eq_map_of_forall (g := id)
    (map_mk_eq_map_mk hmembers (map_mk_eq_map_mk hproperties hclasses)) ?_
  · rw [List.map_id, List.map_id] at hentries
    exact Table.ext hentries
  rintro ⟨token, id, label, group⟩ he ⟨token', id', label', group'⟩ he' hall
  obtain ⟨hmember, hrest⟩ := Prod.mk.inj hall
  obtain ⟨hproperty, hclass⟩ := Prod.mk.inj hrest
  obtain ⟨rfl, rfl⟩ := Prod.mk.inj hmember
  obtain rfl : label = label' := label_eq_of_property_eq hproperty
  obtain rfl : group = group' :=
    List.inj_on_of_nodup_map hnodup (group_mem_names h he) (hnames ▸ group_mem_names h' he') hclass
  rfl

/-! ### The generated part -/

/-- **Catalogues with one generated part.** Two catalogues that were made from documents have the
same generated part exactly if they have the same sensor types, with their tokens, numbers, labels
and groups, and groups of the same names with scales of the same tokens and numbers. -/
theorem render_eq_render_iff (h : Catalog.build scales sensors rules = .ok catalog)
    (h' : Catalog.build scales' sensors' rules' = .ok catalog') (source : Source) :
    render catalog (UnitIndex.ofGroups catalog.groups.values) source =
        render catalog' (UnitIndex.ofGroups catalog'.groups.values) source ↔
      catalog.sensors = catalog'.sensors ∧ publishedGroups catalog = publishedGroups catalog' := by
  rw [render_eq h, render_eq h', Except.ok.injEq]
  constructor
  · intro heq
    have houtline : outline catalog = outline catalog' := by
      have hread := readLines_generatedLines h (source.blobUrl source.sensorTypesPath)
      rw [heq, readLines_generatedLines h'] at hread
      exact (Prod.mk.inj (Option.some.inj hread)).2.symm
    have hmembers := sensorMembers_eq_of_outline_eq houtline
    have hclasses := classes_eq_of_outline_eq h h' houtline
    obtain ⟨hproperties, htypes⟩ := sections_eq_of_generatedLines_eq heq hmembers hclasses
    have hgroups : publishedGroups catalog = publishedGroups catalog' := by
      refine map_eq_map_of_forall (map_mk_eq_map_mk htypes hclasses)
        fun group hgroup group' hgroup' hboth => ?_
      obtain ⟨htype, hclass⟩ := Prod.mk.inj hboth
      exact Prod.ext (name_eq_of_scaleClass_eq h h' hgroup hgroup' htype) (Prod.mk.inj hclass).2
    have hnames : catalog.groups.values.map ScaleGroup.name =
        catalog'.groups.values.map ScaleGroup.name :=
      map_eq_of_publishedGroups_eq hgroups Prod.fst
    exact ⟨sensors_eq_of_properties_eq h h' hmembers hproperties
      (rowClasses_eq_of_outline_eq houtline) hnames, hgroups⟩
  · rintro ⟨hsensors, hgroups⟩
    exact generatedLines_congr hsensors hgroups _

end

/-- The group of `temperatureScales` under another key and with other labels. -/
def respelledScales : ScaleDocument :=
  Table.ofList [("TEMPERATURE",
    Table.ofList [("0x00", ⟨"celsius", none, none⟩), ("0x01", ⟨"Fahrenheit (old)", none, none⟩)])]

/-- The key of a group and the labels of its scales are not published. -/
theorem render_eq_render_respelled : ∃ catalog catalog',
    Catalog.build temperatureScales temperatureSensors ⟨[]⟩ = .ok catalog ∧
      Catalog.build respelledScales temperatureSensors ⟨[]⟩ = .ok catalog' ∧ catalog ≠ catalog' ∧
      render catalog (UnitIndex.ofGroups catalog.groups.values) { } =
        render catalog' (UnitIndex.ofGroups catalog'.groups.values) { } := by
  obtain ⟨⟨catalog, catalog'⟩, hboth, hcheck⟩ := Fallible.exists_eq_ok_of_any
    (x := do
      let catalog ← Catalog.build temperatureScales temperatureSensors ⟨[]⟩
      let catalog' ← Catalog.build respelledScales temperatureSensors ⟨[]⟩
      return (catalog, catalog'))
    (p := fun c => c.1 ≠ c.2 ∧ c.1.sensors = c.2.sensors ∧
      publishedGroups c.1 = publishedGroups c.2) (by decide +kernel)
  obtain ⟨first, h, hrest⟩ := Fallible.bind_eq_ok_iff.1 hboth
  obtain ⟨second, h', hpair⟩ := Fallible.bind_eq_ok_iff.1 hrest
  obtain ⟨rfl, rfl⟩ := Prod.mk.inj (Except.ok.inj hpair)
  obtain ⟨hne, hpublished⟩ := of_decide_eq_true hcheck
  exact ⟨first, second, h, h', hne, (render_eq_render_iff h h' { }).2 hpublished⟩

end SensorCatalog.ConstantsFile
