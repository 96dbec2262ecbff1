import SensorCatalog.Proofs.Catalog.Step
import SensorCatalog.Proofs.Filling

/-!
# The entries of a catalogue

A catalogue holds what its documents describe and nothing else: its scales, groups and sensor types
correspond one to one to the entries of the documents, each under a name that comes from its entry.
So everything that is asked of a catalogue can be asked of the documents.

## Main definitions

* `GroupDefinition`: a group as the documents describe it, shared or a sensor type's own.
* `IsScaleOf`, `IsGroupOf`, `IsSensorOf`: what an entry of a document describes.
* `Catalog.Represents`: a catalogue holds what the documents describe.

## Main results

* `ScaleGroup.ofDefinitions_eq_ok_iff_isGroupOf`, `Draft.addSensor_eq_ok_iff_extends`: the steps.
* `Catalog.build_eq_ok_iff_represents`: the catalogue of two documents.
-/

namespace SensorCatalog

open Fallible

/-! ### Scales -/

/-- An entry of a group of scales stands for an entry of a document. -/
structure IsScaleOf (d : String × ScaleDefinition) (e : String × Scale) : Prop where
  /-- The key of the document is the id. -/
  id : HexId.parse? d.1 = some e.2.id
  /-- The label is kept. -/
  label : e.2.label = d.2.label
  /-- The token is the one of the label. -/
  token : e.1 = Label.token .dropped d.2.label
  /-- The token can stand in source code. -/
  isIdentifier : Label.isIdentifier e.1

theorem exists_isScaleOf_iff {d : String × ScaleDefinition} :
    (∃ e, IsScaleOf d e) ↔
      (HexId.parse? d.1).isSome ∧ Label.isIdentifier (Label.token .dropped d.2.label) := by
  constructor
  · rintro ⟨e, he⟩
    exact ⟨he.id ▸ rfl, he.token ▸ he.isIdentifier⟩
  · rintro ⟨hid, hname⟩
    obtain ⟨id, hid⟩ := Option.isSome_iff_exists.1 hid
    exact ⟨(_, ⟨id, d.2.label⟩), hid, rfl, rfl, hname⟩

theorem addScale_eq_ok_iff_isScaleOf {groupName : String} {scales scales' : Table Scale}
    {d : String × ScaleDefinition} :
    addScale groupName scales d.1 d.2 = .ok scales' ↔
      ∃ e, IsScaleOf d e ∧ scales.find? e.1 = none ∧ scales' = scales.insert e.1 e.2 := by
  rw [addScale_eq_ok_iff]
  constructor
  · rintro ⟨id, token, hid, htoken, hname, hnew, rfl⟩
    exact ⟨(token, ⟨id, d.2.label⟩), ⟨hid, rfl, htoken, hname⟩, hnew, rfl⟩
  · rintro ⟨⟨token, id, label⟩, ⟨hid, hlabel, htoken, hname⟩, hnew, rfl⟩
    dsimp only at hlabel
    subst hlabel
    exact ⟨id, token, hid, htoken, hname, hnew, rfl⟩

/-! ### Groups -/

/-- A group of scales as the documents describe it. -/
structure GroupDefinition where
  /-- The readable name of the group. -/
  name : String
  /-- The key of the shared group, or the label of the sensor type whose own group it is. -/
  origin : String
  /-- The scales. -/
  scales : ScaleDefinitions

namespace GroupDefinition

/-- The shared group that an entry of a document describes. -/
def ofShared (d : String × ScaleDefinitions) : GroupDefinition :=
  ⟨Label.displayName d.1, d.1, d.2⟩

/-- The own group of the sensor type with a token and a label, if it has one. -/
def ofSource? (token label : String) : ScaleSource → Option GroupDefinition
  | .shared _ => none
  | .own scales => some ⟨Label.displayName token, label, scales⟩

/-- The own group of the sensor type that an entry of a document describes, if it has one. -/
def ofSensor? (rules : NameRules) (d : String × SensorDefinition) : Option GroupDefinition :=
  (HexId.parse? d.1).bind fun id => ofSource? (rules.token id d.2.label) d.2.label d.2.scales

end GroupDefinition

/-- An entry of the groups stands for a group that the documents describe. -/
structure IsGroupOf (g : GroupDefinition) (e : String × ScaleGroup) : Prop where
  /-- The group stands under the name. -/
  key : e.1 = g.name
  /-- The name is kept. -/
  name : e.2.name = g.name
  /-- The origin is kept. -/
  origin : e.2.origin = g.origin
  /-- The scales are those of the documents. -/
  scales : OneToOne IsScaleOf g.scales.entries e.2.scales.entries

/-- Adding scales of a document to none. -/
theorem foldlM_addScale_eq_ok_iff {groupName : String} {ds : List (String × ScaleDefinition)}
    {scales : Table Scale} :
    ds.foldlM (fun scales d => addScale groupName scales d.1 d.2) ∅ = .ok scales ↔
      OneToOne IsScaleOf ds scales.entries :=
  Iff.trans (Table.foldlM_eq_ok_iff_adds addScale_eq_ok_iff_isScaleOf) Table.adds_empty_iff

/-- **The scales of a group** are those of the documents, one for one. -/
theorem ScaleGroup.ofDefinitions_eq_ok_iff_isGroupOf {g : GroupDefinition} {group : ScaleGroup} :
    ScaleGroup.ofDefinitions g.name g.origin g.scales = .ok group ↔
      IsGroupOf g (g.name, group) := by
  simp only [ofDefinitions_eq_ok_iff, foldlM_addScale_eq_ok_iff]
  constructor
  · rintro ⟨scales, hscales, rfl⟩
    exact ⟨rfl, rfl, rfl, hscales⟩
  · obtain ⟨name, origin, scales⟩ := group
    rintro ⟨-, rfl, rfl, hscales⟩
    exact ⟨scales, hscales, rfl⟩

theorem ScaleGroup.name_ofDefinitions {name origin : String} {definitions : ScaleDefinitions}
    {group : ScaleGroup} (h : ScaleGroup.ofDefinitions name origin definitions = .ok group) :
    group.name = name :=
  (ofDefinitions_eq_ok_iff_isGroupOf (g := ⟨name, origin, definitions⟩)).1 h |>.name

/-- Making the group that the documents describe and adding it is adding its entry. -/
theorem exists_ofDefinitions_insert_iff {g : GroupDefinition} {groups groups' : Table ScaleGroup} :
    (∃ group, ScaleGroup.ofDefinitions g.name g.origin g.scales = .ok group ∧
      groups.find? group.name = none ∧ groups' = groups.insert group.name group) ↔
      Table.Adds IsGroupOf [g] groups groups' := by
  simp only [ScaleGroup.ofDefinitions_eq_ok_iff_isGroupOf, Table.adds_cons_iff, Table.adds_nil_iff]
  constructor
  · rintro ⟨group, hgroup, hnew, rfl⟩
    have hname : group.name = g.name := hgroup.name
    rw [hname] at hnew ⊢
    exact ⟨_, hgroup, hnew, rfl⟩
  · rintro ⟨⟨key, group⟩, hgroup, hnew, rfl⟩
    obtain rfl : key = g.name := hgroup.key
    have hname : group.name = g.name := hgroup.name
    exact ⟨group, hgroup, hname ▸ hnew, by rw [hname]⟩

theorem foldlM_addShared_eq_ok_iff {ds : List (String × ScaleDefinitions)}
    {groups groups' : Table ScaleGroup} :
    ds.foldlM (fun groups d => addShared groups d.1 d.2) groups = .ok groups' ↔
      Table.Adds IsGroupOf (ds.map GroupDefinition.ofShared) groups groups' := by
  rw [Table.adds_map_left_iff]
  refine Table.foldlM_eq_ok_iff_adds fun {groups d groups'} => ?_
  have hadds := @exists_ofDefinitions_insert_iff (.ofShared d) groups groups'
  simp only [Table.adds_cons_iff, Table.adds_nil_iff] at hadds
  exact addShared_eq_ok_iff.trans hadds

/-! ### Sensor types -/

/-- The name of the group of the scales of the sensor type with a token. -/
def ScaleSource.groupName (token : String) : ScaleSource → String
  | .shared reference => referencedGroup reference
  | .own _ => Label.displayName token

/-- An entry of the sensor types stands for an entry of a document. -/
structure IsSensorOf (rules : NameRules) (d : String × SensorDefinition)
    (e : String × SensorType) : Prop where
  /-- The key of the document is the id. -/
  id : HexId.parse? d.1 = some e.2.id
  /-- The label is kept. -/
  label : e.2.label = d.2.label
  /-- The token is the one of the id and the label. -/
  token : e.1 = rules.token e.2.id d.2.label
  /-- The token can stand in source code. -/
  isIdentifier : Label.isIdentifier e.1
  /-- The group is the one that the document says. -/
  group : e.2.group = d.2.scales.groupName e.1

theorem isSensorOf_iff {rules : NameRules} {d : String × SensorDefinition}
    {e : String × SensorType} :
    IsSensorOf rules d e ↔ ∃ id, HexId.parse? d.1 = some id ∧
      Label.isIdentifier (rules.token id d.2.label) ∧
      e = (rules.token id d.2.label,
        ⟨id, d.2.label, d.2.scales.groupName (rules.token id d.2.label)⟩) := by
  constructor
  · obtain ⟨token, id, label, group⟩ := e
    rintro ⟨hid, hlabel, htoken, hname, hgroup⟩
    dsimp only at hid hlabel htoken hname hgroup
    subst hlabel htoken hgroup
    exact ⟨id, hid, hname, rfl⟩
  · rintro ⟨id, hid, hname, rfl⟩
    exact ⟨hid, rfl, rfl, hname, rfl⟩

/-- The reference of the sensor type with a token, if it has one. -/
def ScaleSource.reference? (token : String) : ScaleSource → Option Reference
  | .shared text => some ⟨token, text⟩
  | .own _ => none

/-- The reference of the sensor type that an entry of a document describes, if it has one. -/
def sensorReference? (rules : NameRules) (d : String × SensorDefinition) : Option Reference :=
  (HexId.parse? d.1).bind fun id => d.2.scales.reference? (rules.token id d.2.label)

theorem sensorReference?_eq_some_iff {rules : NameRules} {d : String × SensorDefinition}
    {r : Reference} :
    sensorReference? rules d = some r ↔ ∃ id, HexId.parse? d.1 = some id ∧
      rules.token id d.2.label = r.sensor ∧ d.2.scales = .shared r.text := by
  obtain ⟨token, text⟩ := r
  rw [sensorReference?, Option.bind_eq_some_iff]
  refine exists_congr fun id => and_congr_right fun _ => ?_
  cases d.2.scales <;> simp [ScaleSource.reference?]

namespace Draft

variable {rules : NameRules} {draft draft' : Draft} {d : String × SensorDefinition}
  {ds : List (String × SensorDefinition)}

/-- A draft has what another one has and, beside that, what the entries of a document describe. -/
structure Extends (rules : NameRules) (ds : List (String × SensorDefinition))
    (draft draft' : Draft) : Prop where
  /-- There is a new sensor type for each entry. -/
  sensors : Table.Adds (IsSensorOf rules) ds draft.sensors draft'.sensors
  /-- There is a new group for each entry that describes one. -/
  groups : Table.Adds IsGroupOf (ds.filterMap (GroupDefinition.ofSensor? rules)) draft.groups
    draft'.groups
  /-- There is a new reference for each entry that has one. -/
  references : draft'.references =
    (ds.filterMap (sensorReference? rules)).reverse ++ draft.references

theorem extends_nil_iff : Extends rules [] draft draft' ↔ draft' = draft := by
  constructor
  · obtain ⟨groups, sensors, references⟩ := draft
    obtain ⟨groups', sensors', references'⟩ := draft'
    rintro ⟨hsensors, hgroups, hreferences⟩
    obtain rfl : groups' = groups := Table.adds_nil_iff.1 hgroups
    obtain rfl : sensors' = sensors := Table.adds_nil_iff.1 hsensors
    obtain rfl : references' = references := hreferences
    rfl
  · rintro rfl
    exact ⟨Table.adds_nil_iff.2 rfl, Table.adds_nil_iff.2 rfl, rfl⟩

/-- A reference in a draft made from a document is that of a sensor type of the document. -/
theorem Extends.exists_of_mem_references {groups : Table ScaleGroup}
    (h : Extends rules ds { groups } draft) {r : Reference} (hr : r ∈ draft.references) :
    ∃ d ∈ ds, ∃ id, HexId.parse? d.1 = some id ∧ rules.token id d.2.label = r.sensor ∧
      d.2.scales = .shared r.text := by
  rw [h.references, List.append_nil, List.mem_reverse] at hr
  obtain ⟨d, hd, hnoted⟩ := List.mem_filterMap.1 hr
  exact ⟨d, hd, sensorReference?_eq_some_iff.1 hnoted⟩

theorem extends_cons_iff :
    Extends rules (d :: ds) draft draft' ↔
      ∃ mid, Extends rules [d] draft mid ∧ Extends rules ds mid draft' := by
  constructor
  · rintro ⟨hsensors, hgroups, hreferences⟩
    rw [← List.singleton_append, Table.adds_append_iff] at hsensors
    rw [← List.singleton_append, List.filterMap_append, Table.adds_append_iff] at hgroups
    obtain ⟨sensors, hsensors, hsensors'⟩ := hsensors
    obtain ⟨groups, hgroups, hgroups'⟩ := hgroups
    refine ⟨⟨groups, sensors, ([d].filterMap (sensorReference? rules)).reverse ++ draft.references⟩,
      ⟨hsensors, hgroups, rfl⟩, hsensors', hgroups', ?_⟩
    rw [hreferences, ← List.singleton_append, List.filterMap_append, List.reverse_append,
      List.append_assoc]
  · rintro ⟨mid, h, h'⟩
    rw [← List.singleton_append]
    refine ⟨Table.adds_append_iff.2 ⟨_, h.sensors, h'.sensors⟩, ?_, ?_⟩
    · rw [List.filterMap_append]
      exact Table.adds_append_iff.2 ⟨_, h.groups, h'.groups⟩
    · rw [h'.references, h.references, List.filterMap_append, List.reverse_append,
        List.append_assoc]

theorem extends_singleton_iff :
    Extends rules [d] draft draft' ↔ ∃ id, HexId.parse? d.1 = some id ∧
      Label.isIdentifier (rules.token id d.2.label) ∧
      draft.sensors.find? (rules.token id d.2.label) = none ∧
      draft'.sensors = draft.sensors.insert (rules.token id d.2.label)
        ⟨id, d.2.label, d.2.scales.groupName (rules.token id d.2.label)⟩ ∧
      Table.Adds IsGroupOf (GroupDefinition.ofSensor? rules d).toList draft.groups draft'.groups ∧
      draft'.references = (sensorReference? rules d).toList ++ draft.references := by
  have hgroups : [d].filterMap (GroupDefinition.ofSensor? rules) =
      (GroupDefinition.ofSensor? rules d).toList := by
    cases hg : GroupDefinition.ofSensor? rules d <;> simp [hg]
  have hreferences : ([d].filterMap (sensorReference? rules)).reverse =
      (sensorReference? rules d).toList := by
    cases hr : sensorReference? rules d <;> simp [hr]
  constructor
  · rintro ⟨hsensors, hgroups', hreferences'⟩
    obtain ⟨e, he, hnew, hrest⟩ := Table.adds_cons_iff.1 hsensors
    obtain ⟨id, hid, hname, rfl⟩ := isSensorOf_iff.1 he
    exact ⟨id, hid, hname, hnew, Table.adds_nil_iff.1 hrest, hgroups ▸ hgroups',
      hreferences ▸ hreferences'⟩
  · rintro ⟨id, hid, hname, hnew, hsensors, hgroups', hreferences'⟩
    refine ⟨?_, hgroups ▸ hgroups', hreferences ▸ hreferences'⟩
    exact Table.adds_cons_iff.2 ⟨_, isSensorOf_iff.2 ⟨id, hid, hname, rfl⟩, hnew,
      Table.adds_nil_iff.2 hsensors⟩

/-- Settling where the scales of a sensor type are adds its own group or notes its reference. -/
theorem settle_eq_ok_iff {token label name : String} {source : ScaleSource} :
    draft.settle token label source = .ok (draft', name) ↔
      name = source.groupName token ∧ draft'.sensors = draft.sensors ∧
        Table.Adds IsGroupOf (GroupDefinition.ofSource? token label source).toList draft.groups
          draft'.groups ∧
        draft'.references = (source.reference? token).toList ++ draft.references := by
  obtain ⟨groups', sensors', references'⟩ := draft'
  cases source with
  | shared reference =>
    rw [settle_shared_eq_ok_iff, Draft.mk.injEq]
    refine and_congr_right fun _ => ?_
    rw [GroupDefinition.ofSource?, Option.toList_none, Table.adds_nil_iff]
    exact and_left_comm
  | own definitions =>
    rw [settle_own_eq_ok_iff, GroupDefinition.ofSource?, Option.toList_some,
      ← exists_ofDefinitions_insert_iff]
    simp only [Draft.mk.injEq]
    constructor
    · rintro ⟨group, hgroup, hnew, rfl, rfl, rfl, rfl⟩
      exact ⟨ScaleGroup.name_ofDefinitions hgroup, rfl, ⟨group, hgroup, hnew, rfl⟩, rfl⟩
    · rintro ⟨rfl, rfl, ⟨group, hgroup, hnew, rfl⟩, rfl⟩
      exact ⟨group, hgroup, hnew, (ScaleGroup.name_ofDefinitions hgroup).symm, rfl, rfl, rfl⟩

/-- **Adding a sensor type** succeeds with a draft exactly if the draft has what the entry describes
and nothing else that is new. -/
theorem addSensor_eq_ok_iff_extends :
    addSensor rules draft d.1 d.2 = .ok draft' ↔ Extends rules [d] draft draft' := by
  obtain ⟨groups', sensors', references'⟩ := draft'
  simp only [addSensor_eq_ok_iff, extends_singleton_iff, settle_eq_ok_iff, Draft.mk.injEq]
  refine exists_congr fun id => ?_
  constructor
  · rintro ⟨_, ⟨settledGroups, settledSensors, settledReferences⟩, _, hid, rfl, hname,
      ⟨rfl, rfl, hgroups, rfl⟩, hnew, rfl, rfl, rfl⟩
    refine ⟨hid, hname, hnew, rfl, ?_, ?_⟩
    · rwa [GroupDefinition.ofSensor?, hid]
    · rw [sensorReference?, hid]
      rfl
  · rintro ⟨hid, hname, hnew, rfl, hgroups, rfl⟩
    rw [GroupDefinition.ofSensor?, hid] at hgroups
    refine ⟨_, ⟨groups', draft.sensors, _⟩, _, hid, rfl, hname, ⟨rfl, rfl, hgroups, rfl⟩, hnew,
      rfl, rfl, ?_⟩
    rw [sensorReference?, hid]
    rfl

/-- Adding the sensor types of a document. -/
theorem foldlM_addSensor_eq_ok_iff :
    ds.foldlM (fun draft d => addSensor rules draft d.1 d.2) draft = .ok draft' ↔
      Extends rules ds draft draft' := by
  induction ds generalizing draft with
  | nil =>
    rw [List.foldlM_nil, extends_nil_iff]
    exact ⟨fun h => (Except.ok.inj h).symm, fun h => h ▸ rfl⟩
  | cons d ds ih =>
    rw [List.foldlM_cons, bind_eq_ok_iff, extends_cons_iff]
    exact exists_congr fun mid => and_congr addSensor_eq_ok_iff_extends ih

end Draft

/-! ### The whole catalogue -/

/-- The groups that two documents describe: the shared ones and the own ones of sensor types. -/
def groupDefinitions (scales : ScaleDocument) (sensors : SensorDocument) (rules : NameRules) :
    List GroupDefinition :=
  scales.entries.map GroupDefinition.ofShared ++
    sensors.entries.filterMap (GroupDefinition.ofSensor? rules)

/-- The references of a document all mean groups that the documents describe. -/
def ReferencesResolve (scales : ScaleDocument) (sensors : SensorDocument) (rules : NameRules) :
    Prop :=
  ∀ d ∈ sensors.entries, ∀ reference, d.2.scales = .shared reference →
    referencedGroup reference ∈ (groupDefinitions scales sensors rules).map GroupDefinition.name

namespace Catalog

variable {scales : ScaleDocument} {sensors : SensorDocument} {rules : NameRules}
  {catalog : Catalog}

/-- A catalogue holds what two documents describe, and nothing else. -/
structure Represents (catalog : Catalog) (scales : ScaleDocument) (sensors : SensorDocument)
    (rules : NameRules) : Prop where
  /-- The groups are those that the documents describe. -/
  groups : OneToOne IsGroupOf (groupDefinitions scales sensors rules) catalog.groups.entries
  /-- The sensor types are those of the document. -/
  sensors : OneToOne (IsSensorOf rules) sensors.entries catalog.sensors.entries

theorem Represents.map_groups_perm {α : Type} (h : catalog.Represents scales sensors rules)
    (f : String → α) :
    (catalog.groups.values.map fun group => f group.name).Perm
      ((groupDefinitions scales sensors rules).map fun g => f g.name) := by
  have hnames := h.groups.map_perm (f := fun g => f g.name) (g := fun e => f e.2.name)
    fun hgroup => congrArg f hgroup.name
  rwa [Table.values, List.map_map]

theorem Represents.contains_group_iff (h : catalog.Represents scales sensors rules)
    {name : String} :
    catalog.groups.contains name ↔
      name ∈ (groupDefinitions scales sensors rules).map GroupDefinition.name := by
  rw [← (h.groups.map_perm (g := Prod.fst) IsGroupOf.key).mem_iff, Table.contains_iff]
  simp

/-- The references that are noted for the sensor types of a document are resolved exactly if the
references of the document are. -/
theorem Represents.forall_reference_iff (h : catalog.Represents scales sensors rules) :
    (∀ r ∈ sensors.entries.filterMap (sensorReference? rules),
      catalog.groups.contains (referencedGroup r.text)) ↔
      ReferencesResolve scales sensors rules := by
  simp only [h.contains_group_iff]
  constructor
  · intro hall d hd reference hsource
    obtain ⟨e, -, he⟩ := h.sensors.exists_right_of_mem hd
    exact hall ⟨rules.token e.2.id d.2.label, reference⟩ (List.mem_filterMap.2
      ⟨d, hd, sensorReference?_eq_some_iff.2 ⟨e.2.id, he.id, rfl, hsource⟩⟩)
  · intro hall r hr
    obtain ⟨d, hd, hnoted⟩ := List.mem_filterMap.1 hr
    obtain ⟨id, -, -, hsource⟩ := sensorReference?_eq_some_iff.1 hnoted
    exact hall d hd r.text hsource

/-- **The catalogue of two documents** is the one that holds what they describe. There is one if
such a catalogue has no dangling reference and no two classes with one name. -/
theorem build_eq_ok_iff_represents :
    build scales sensors rules = .ok catalog ↔
      catalog.Represents scales sensors rules ∧ ReferencesResolve scales sensors rules ∧
        (catalog.groups.values.map ScaleGroup.className).Nodup := by
  simp only [build_eq_ok_iff, foldlM_addShared_eq_ok_iff, Draft.foldlM_addSensor_eq_ok_iff,
    classCollision?_eq_none_iff, Draft.unknownReference?_eq_none_iff]
  constructor
  · rintro ⟨groups, draft, hshared, ⟨hsensors, hown, hreferences⟩, hresolved, hclasses, rfl⟩
    have hall := Table.adds_append_iff.2 ⟨groups, hshared, hown⟩
    have hrepresents : Represents ⟨draft.groups, draft.sensors⟩ scales sensors rules :=
      ⟨Table.adds_empty_iff.1 hall, Table.adds_empty_iff.1 hsensors⟩
    refine ⟨hrepresents, hrepresents.forall_reference_iff.1 fun r hr => ?_, hclasses⟩
    exact hresolved r (by simpa [hreferences] using hr)
  · rintro ⟨hrepresents, hresolved, hclasses⟩
    obtain ⟨groups, hshared, hown⟩ :=
      Table.adds_append_iff.1 (Table.adds_empty_iff.2 hrepresents.groups)
    refine ⟨groups, ⟨catalog.groups, catalog.sensors, _⟩, hshared,
      ⟨Table.adds_empty_iff.2 hrepresents.sensors, hown, rfl⟩, fun r hr => ?_, hclasses, rfl⟩
    exact hrepresents.forall_reference_iff.2 hresolved r (by simpa using hr)

/-! ### What follows for the entries -/

theorem exists_isSensorOf (h : build scales sensors rules = .ok catalog) {e : String × SensorType}
    (he : e ∈ catalog.sensors.entries) : ∃ d ∈ sensors.entries, IsSensorOf rules d e :=
  (build_eq_ok_iff_represents.1 h).1.sensors.exists_left_of_mem he

theorem exists_isGroupOf (h : build scales sensors rules = .ok catalog) {e : String × ScaleGroup}
    (he : e ∈ catalog.groups.entries) :
    ∃ g ∈ groupDefinitions scales sensors rules, IsGroupOf g e :=
  (build_eq_ok_iff_represents.1 h).1.groups.exists_left_of_mem he

theorem nodup_classNames (h : build scales sensors rules = .ok catalog) :
    (catalog.groups.values.map ScaleGroup.className).Nodup :=
  (build_eq_ok_iff_represents.1 h).2.2

/-- A group stands under its name. -/
theorem name_eq_of_mem (h : build scales sensors rules = .ok catalog) {e : String × ScaleGroup}
    (he : e ∈ catalog.groups.entries) : e.2.name = e.1 := by
  obtain ⟨g, -, hgroup⟩ := exists_isGroupOf h he
  exact hgroup.name.trans hgroup.key.symm

/-- The labels of a catalogue's sensor types are those of the document. -/
theorem forall_label_iff (h : build scales sensors rules = .ok catalog) (P : String → Prop) :
    (∀ e ∈ catalog.sensors.entries, P e.2.label) ↔ ∀ d ∈ sensors.entries, P d.2.label := by
  have hlabels := (build_eq_ok_iff_represents.1 h).1.sensors.map_perm
    (f := fun d => d.2.label) (g := fun e => e.2.label) IsSensorOf.label
  have hall : (∀ label ∈ catalog.sensors.entries.map fun e => e.2.label, P label) ↔
      ∀ label ∈ sensors.entries.map fun d => d.2.label, P label :=
    forall_congr' fun label => imp_congr_left hlabels.mem_iff
  rwa [List.forall_mem_map, List.forall_mem_map] at hall

/-- The groups that sensor types name are there. -/
theorem contains_group (h : build scales sensors rules = .ok catalog) {e : String × SensorType}
    (he : e ∈ catalog.sensors.entries) : catalog.groups.contains e.2.group := by
  obtain ⟨hrepresents, hresolved, -⟩ := build_eq_ok_iff_represents.1 h
  obtain ⟨d, hd, hsensor⟩ := exists_isSensorOf h he
  rw [hrepresents.contains_group_iff, hsensor.group]
  cases hsource : d.2.scales with
  | shared reference => exact hresolved d hd reference hsource
  | own definitions =>
    have hown : GroupDefinition.ofSensor? rules d =
        some ⟨Label.displayName e.1, d.2.label, definitions⟩ := by
      rw [GroupDefinition.ofSensor?, hsensor.id, hsource, hsensor.token]
      rfl
    exact List.mem_map.2 ⟨_, List.mem_append_right _ (List.mem_filterMap.2 ⟨d, hd, hown⟩), rfl⟩

/-- The group that a sensor type names, which has that name. -/
theorem exists_group (h : build scales sensors rules = .ok catalog) {e : String × SensorType}
    (he : e ∈ catalog.sensors.entries) :
    ∃ group, (e.2.group, group) ∈ catalog.groups.entries ∧ group.name = e.2.group := by
  obtain ⟨group, hgroup⟩ := Table.contains_iff.1 (contains_group h he)
  exact ⟨group, hgroup, name_eq_of_mem h hgroup⟩

/-! ### Names -/

/-- A sensor type has the token of a label. -/
theorem exists_token_eq (h : build scales sensors rules = .ok catalog) {e : String × SensorType}
    (he : e ∈ catalog.sensors.entries) :
    ∃ parentheses label, e.1 = Label.token parentheses label := by
  obtain ⟨d, -, hsensor⟩ := exists_isSensorOf h he
  exact ⟨_, _, hsensor.token⟩

/-- A group that is described has a readable name. -/
theorem exists_name_eq_displayName {g : GroupDefinition}
    (hg : g ∈ groupDefinitions scales sensors rules) :
    ∃ label, g.name = Label.displayName label := by
  rcases List.mem_append.1 hg with hg | hg
  · obtain ⟨d, -, rfl⟩ := List.mem_map.1 hg
    exact ⟨_, rfl⟩
  · obtain ⟨⟨_, _, source⟩, -, hg⟩ := List.mem_filterMap.1 hg
    obtain ⟨id, -, hg⟩ := Option.bind_eq_some_iff.1 hg
    cases source with
    | shared reference => cases hg
    | own definitions =>
      obtain rfl := Option.some.inj hg
      exact ⟨_, rfl⟩

theorem exists_displayName_eq (h : build scales sensors rules = .ok catalog)
    {group : ScaleGroup} (hgroup : group ∈ catalog.groups.values) :
    ∃ label, group.name = Label.displayName label := by
  obtain ⟨key, he⟩ := Table.mem_values.1 hgroup
  obtain ⟨g, hg, hgroup⟩ := exists_isGroupOf h he
  obtain ⟨label, hname⟩ := exists_name_eq_displayName hg
  exact ⟨label, hgroup.name.trans hname⟩

/-- A scale has the token of a label. -/
theorem exists_scaleToken_eq (h : build scales sensors rules = .ok catalog) {group : ScaleGroup}
    (hgroup : group ∈ catalog.groups.values) {e : String × Scale} (he : e ∈ group.scales.entries) :
    ∃ label, e.1 = Label.token .dropped label := by
  obtain ⟨key, hkey⟩ := Table.mem_values.1 hgroup
  obtain ⟨g, -, hgroup⟩ := exists_isGroupOf h hkey
  obtain ⟨d, -, hscale⟩ := hgroup.scales.exists_left_of_mem he
  exact ⟨_, hscale.token⟩

end Catalog

end SensorCatalog
