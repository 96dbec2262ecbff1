import SensorCatalog.Proofs.Catalog.Entries

/-!
# Documents that agree

A key stands for an id, and the same id can be written in several ways; units and remarks are for
readers only. Documents that differ in nothing else agree, although their entries may stand in
another order, as they stand in the order of their keys. Documents that agree have the same
catalogue, or none of them has one.

## Main definitions

* `AgreeOnScale`, `AgreeOnShared`, `AgreeOnSensor`: entries that describe the same.
* `DocumentsAgree`: documents whose entries describe the same, one for one.

## Main results

* `DocumentsAgree.represents_iff`: what documents that agree describe.
* `DocumentsAgree.build_eq_or_refused`: the catalogues of documents that agree.
-/

namespace SensorCatalog

/-! ### Entries -/

/-- Two scales have keys that stand for the same id or for none, and the same label. -/
structure AgreeOnScale (d d' : String × ScaleDefinition) : Prop where
  id : HexId.parse? d.1 = HexId.parse? d'.1
  label : d.2.label = d'.2.label

/-- The scales of two groups agree one for one. -/
def AgreeOnScales (g g' : ScaleDefinitions) : Prop :=
  OneToOne AgreeOnScale g.entries g'.entries

/-- Two shared groups have the same key and scales that agree. -/
structure AgreeOnShared (d d' : String × ScaleDefinitions) : Prop where
  key : d.1 = d'.1
  scales : AgreeOnScales d.2 d'.2

/-- Two sensor types have the same reference, or groups of their own that agree. -/
inductive AgreeOnSource : ScaleSource → ScaleSource → Prop where
  | shared (reference : String) : AgreeOnSource (.shared reference) (.shared reference)
  | own {g g' : ScaleDefinitions} (scales : AgreeOnScales g g') : AgreeOnSource (.own g) (.own g')

/-- Two sensor types have keys that stand for the same id or for none, the same label, and the same
reference or groups that agree. -/
structure AgreeOnSensor (d d' : String × SensorDefinition) : Prop where
  id : HexId.parse? d.1 = HexId.parse? d'.1
  label : d.2.label = d'.2.label
  scales : AgreeOnSource d.2.scales d'.2.scales

/-- Two groups that documents describe have the same name and origin, and scales that agree. -/
structure AgreeOnGroup (g g' : GroupDefinition) : Prop where
  name : g.name = g'.name
  origin : g.origin = g'.origin
  scales : AgreeOnScales g.scales g'.scales

theorem AgreeOnScale.isScaleOf_iff {d d' : String × ScaleDefinition} (h : AgreeOnScale d d')
    (e : String × Scale) : IsScaleOf d e ↔ IsScaleOf d' e := by
  constructor
  · intro he
    exact ⟨h.id ▸ he.id, he.label.trans h.label, h.label ▸ he.token, he.isIdentifier⟩
  · intro he
    exact ⟨h.id ▸ he.id, he.label.trans h.label.symm, h.label ▸ he.token, he.isIdentifier⟩

theorem AgreeOnGroup.isGroupOf_iff {g g' : GroupDefinition} (h : AgreeOnGroup g g')
    (e : String × ScaleGroup) : IsGroupOf g e ↔ IsGroupOf g' e := by
  have hscales : OneToOne IsScaleOf g.scales.entries e.2.scales.entries ↔
      OneToOne IsScaleOf g'.scales.entries e.2.scales.entries :=
    h.scales.congr_left AgreeOnScale.isScaleOf_iff
  constructor
  · intro he
    exact ⟨he.key.trans h.name, he.name.trans h.name, he.origin.trans h.origin,
      hscales.1 he.scales⟩
  · intro he
    exact ⟨he.key.trans h.name.symm, he.name.trans h.name.symm, he.origin.trans h.origin.symm,
      hscales.2 he.scales⟩

theorem AgreeOnSource.groupName_eq {source source' : ScaleSource}
    (h : AgreeOnSource source source') (token : String) :
    source.groupName token = source'.groupName token := by
  cases h with
  | shared reference => rfl
  | own scales => rfl

theorem AgreeOnSource.eq_shared_iff {source source' : ScaleSource}
    (h : AgreeOnSource source source') {reference : String} :
    source = .shared reference ↔ source' = .shared reference := by
  cases h with
  | shared reference => rfl
  | own scales => simp

theorem AgreeOnSensor.isSensorOf_iff {d d' : String × SensorDefinition} (h : AgreeOnSensor d d')
    (rules : NameRules) (e : String × SensorType) :
    IsSensorOf rules d e ↔ IsSensorOf rules d' e := by
  simp only [SensorCatalog.isSensorOf_iff, h.id, h.label, h.scales.groupName_eq]

/-- Shared groups that agree describe the same group. -/
theorem AgreeOnShared.ofShared {d d' : String × ScaleDefinitions} (h : AgreeOnShared d d') :
    AgreeOnGroup (.ofShared d) (.ofShared d') where
  name := congrArg Label.displayName h.key
  origin := h.key
  scales := h.scales

/-- Sensor types that agree describe the same group of their own, or none. -/
theorem AgreeOnSensor.ofSensor? {d d' : String × SensorDefinition} (h : AgreeOnSensor d d')
    (rules : NameRules) :
    Option.Rel AgreeOnGroup (GroupDefinition.ofSensor? rules d)
      (GroupDefinition.ofSensor? rules d') := by
  rw [GroupDefinition.ofSensor?, GroupDefinition.ofSensor?, h.id, h.label]
  cases HexId.parse? d'.1 with
  | none => exact .none
  | some id =>
    rw [Option.bind_some, Option.bind_some]
    obtain ⟨key, label, source⟩ := d
    obtain ⟨key', label', source'⟩ := d'
    cases h.scales with
    | shared reference => exact .none
    | own scales => exact .some ⟨rfl, rfl, scales⟩

/-! ### Whole documents -/

/-- The entries of documents agree one for one. -/
structure DocumentsAgree (scales scales' : ScaleDocument) (sensors sensors' : SensorDocument) :
    Prop where
  scales : OneToOne AgreeOnShared scales.entries scales'.entries
  sensors : OneToOne AgreeOnSensor sensors.entries sensors'.entries

namespace DocumentsAgree

variable {scales scales' : ScaleDocument} {sensors sensors' : SensorDocument}

theorem groupDefinitions (h : DocumentsAgree scales scales' sensors sensors')
    (rules : NameRules) :
    OneToOne AgreeOnGroup (groupDefinitions scales sensors rules)
      (groupDefinitions scales' sensors' rules) :=
  (h.scales.map AgreeOnShared.ofShared).append (h.sensors.filterMap fun hd => hd.ofSensor? rules)

/-- **What documents that agree describe** is the same. -/
theorem represents_iff (h : DocumentsAgree scales scales' sensors sensors') (rules : NameRules)
    (catalog : Catalog) :
    catalog.Represents scales sensors rules ↔ catalog.Represents scales' sensors' rules := by
  have hgroups : OneToOne IsGroupOf (SensorCatalog.groupDefinitions scales sensors rules)
      catalog.groups.entries ↔ OneToOne IsGroupOf
        (SensorCatalog.groupDefinitions scales' sensors' rules) catalog.groups.entries :=
    (h.groupDefinitions rules).congr_left AgreeOnGroup.isGroupOf_iff
  have hsensors : OneToOne (IsSensorOf rules) sensors.entries catalog.sensors.entries ↔
      OneToOne (IsSensorOf rules) sensors'.entries catalog.sensors.entries :=
    h.sensors.congr_left fun hd => hd.isSensorOf_iff rules
  exact ⟨fun hc => ⟨hgroups.1 hc.groups, hsensors.1 hc.sensors⟩,
    fun hc => ⟨hgroups.2 hc.groups, hsensors.2 hc.sensors⟩⟩

theorem referencesResolve_iff (h : DocumentsAgree scales scales' sensors sensors')
    (rules : NameRules) :
    ReferencesResolve scales sensors rules ↔ ReferencesResolve scales' sensors' rules := by
  have hperm := (h.groupDefinitions rules).map_perm fun hg => hg.name.symm
  have hnames : ∀ {name}, name ∈ (SensorCatalog.groupDefinitions scales' sensors' rules).map
      GroupDefinition.name ↔ name ∈ (SensorCatalog.groupDefinitions scales sensors rules).map
      GroupDefinition.name := hperm.mem_iff
  constructor
  · intro hall d' hd' reference hsource
    obtain ⟨d, hd, hagree⟩ := h.sensors.exists_left_of_mem hd'
    exact hnames.2 (hall d hd reference (hagree.scales.eq_shared_iff.2 hsource))
  · intro hall d hd reference hsource
    obtain ⟨d', hd', hagree⟩ := h.sensors.exists_right_of_mem hd
    exact hnames.1 (hall d' hd' reference (hagree.scales.eq_shared_iff.1 hsource))

theorem build_eq_ok_iff (h : DocumentsAgree scales scales' sensors sensors') (rules : NameRules)
    (catalog : Catalog) :
    Catalog.build scales sensors rules = .ok catalog ↔
      Catalog.build scales' sensors' rules = .ok catalog := by
  rw [Catalog.build_eq_ok_iff_represents, Catalog.build_eq_ok_iff_represents, h.represents_iff,
    h.referencesResolve_iff]

/-- **Documents that agree** have the same catalogue, or neither pair of documents has one. -/
theorem build_eq_or_refused (h : DocumentsAgree scales scales' sensors sensors')
    (rules : NameRules) :
    (∃ refusal refusal', Catalog.build scales sensors rules = .error refusal ∧
        Catalog.build scales' sensors' rules = .error refusal') ∨
      ∃ catalog, Catalog.build scales sensors rules = .ok catalog ∧
        Catalog.build scales' sensors' rules = .ok catalog := by
  cases hbuild : Catalog.build scales sensors rules with
  | ok catalog => exact .inr ⟨catalog, rfl, (h.build_eq_ok_iff rules catalog).1 hbuild⟩
  | error refusal =>
    cases hbuild' : Catalog.build scales' sensors' rules with
    | ok catalog => rw [(h.build_eq_ok_iff rules catalog).2 hbuild'] at hbuild; cases hbuild
    | error refusal' => exact .inl ⟨refusal, refusal', rfl, rfl⟩

end DocumentsAgree

/-! ### Ids in several spellings -/

/-- A shared group with two scales. -/
def temperatureGroup : ScaleDocument :=
  Table.ofList [("temperature", Table.ofList [("0x00", ⟨"Celsius", some "°C", none⟩),
    ("0x01", ⟨"Fahrenheit", some "°F", none⟩)])]

/-- The same group with its ids in other spellings, which stand in another order. -/
def temperatureGroupRespelled : ScaleDocument :=
  Table.ofList [("temperature", Table.ofList [("00001", ⟨"Fahrenheit", none, none⟩),
    ("0X0", ⟨"Celsius", none, some "degrees"⟩)])]

/-- A sensor type with the scales of the group, and one with a scale of its own. -/
def temperatureTypes : SensorDocument :=
  Table.ofList [("0x01", ⟨"Air temperature", .shared "$SCALES:temperature"⟩),
    ("0x0A", ⟨"Dew point", .own (Table.ofList [("0x00", ⟨"Kelvin", some "K", none⟩)])⟩)]

/-- The same sensor types with their ids in other spellings, which stand in another order. -/
def temperatureTypesRespelled : SensorDocument :=
  Table.ofList [("000a", ⟨"Dew point", .own (Table.ofList [("0", ⟨"Kelvin", none, none⟩)])⟩),
    ("1", ⟨"Air temperature", .shared "$SCALES:temperature"⟩)]

theorem documentsAgree_respelled : DocumentsAgree temperatureGroup temperatureGroupRespelled
    temperatureTypes temperatureTypesRespelled := by
  have hcrossed : ∀ {α β : Type} {R : α → β → Prop} {a b : α} {a' b' : β}, R a a' → R b b' →
      OneToOne R [a, b] [b', a'] := fun ha hb =>
    ⟨_, .cons ha (.cons hb .nil), .swap _ _ []⟩
  have hsingle : ∀ {α β : Type} {R : α → β → Prop} {a : α} {a' : β}, R a a' →
      OneToOne R [a] [a'] := fun ha => ⟨_, .cons ha .nil, .refl _⟩
  have hgroup := Table.oneToOne_ofList (by decide) (by decide) (hcrossed
    (⟨by decide, rfl⟩ : AgreeOnScale ("0x00", ⟨"Celsius", some "°C", none⟩)
      ("0X0", ⟨"Celsius", none, some "degrees"⟩))
    (⟨by decide, rfl⟩ : AgreeOnScale ("0x01", ⟨"Fahrenheit", some "°F", none⟩)
      ("00001", ⟨"Fahrenheit", none, none⟩)))
  have hown := Table.oneToOne_ofList (by decide) (by decide) (hsingle
    (⟨by decide, rfl⟩ : AgreeOnScale ("0x00", ⟨"Kelvin", some "K", none⟩)
      ("0", ⟨"Kelvin", none, none⟩)))
  exact ⟨Table.oneToOne_ofList (by decide) (by decide) (hsingle ⟨rfl, hgroup⟩),
    Table.oneToOne_ofList (by decide) (by decide)
      (hcrossed ⟨by decide, rfl, .shared _⟩ ⟨by decide, rfl, .own hown⟩)⟩

/-- Spelled in another way, ids make the same catalogue. -/
theorem build_eq_respelled :
    DocumentsAgree temperatureGroup temperatureGroupRespelled temperatureTypes
        temperatureTypesRespelled ∧
      ∃ catalog, Catalog.build temperatureGroup temperatureTypes ⟨[]⟩ = .ok catalog ∧
        Catalog.build temperatureGroupRespelled temperatureTypesRespelled ⟨[]⟩ = .ok catalog := by
  refine ⟨documentsAgree_respelled, ?_⟩
  have hok : (Catalog.build temperatureGroup temperatureTypes ⟨[]⟩).isOk := by decide +kernel
  rcases documentsAgree_respelled.build_eq_or_refused ⟨[]⟩ with ⟨refusal, -, hrefused, -⟩ | h
  · rw [hrefused] at hok
    cases hok
  · exact h

end SensorCatalog
