import SensorCatalog.Proofs.Catalog.Entries

/-!
# The documents that have a catalogue

Whether two documents have a catalogue depends on what they describe and not on the order in which
it is read: every id can be read, every token can stand in source code, what stands side by side has
different names, and every reference means a group that one of the documents describes. The
catalogue then holds what the documents describe, one for one.

## Main definitions

* `AreAcceptable`: the conditions on two documents.

## Main results

* `Catalog.exists_represents_iff`: when there is a catalogue of what the documents describe.
* `Catalog.build_iff_areAcceptable`: the catalogue of two documents.
-/

namespace SensorCatalog

/-! ### Single entries -/

/-- The tokens of the scales of a group, one for each entry of the document. -/
def GroupDefinition.tokens (g : GroupDefinition) : List String :=
  g.scales.entries.map fun d => Label.token .dropped d.2.label

/-- The name of the class of a group's scales. -/
def GroupDefinition.className (g : GroupDefinition) : String :=
  Label.className g.name

/-- The tokens of the sensor types of a document whose ids can be read, one for each entry. -/
def sensorTokens (sensors : SensorDocument) (rules : NameRules) : List String :=
  sensors.entries.filterMap fun d => (HexId.parse? d.1).map fun id => rules.token id d.2.label

theorem GroupDefinition.exists_isGroupOf_iff {g : GroupDefinition} :
    (∃ e, IsGroupOf g e) ↔
      (∀ d ∈ g.scales.entries, (HexId.parse? d.1).isSome) ∧
        (∀ token ∈ g.tokens, Label.isIdentifier token) ∧ g.tokens.Nodup := by
  have htable : (∃ e, IsGroupOf g e) ↔
      ∃ scales : Table Scale, OneToOne IsScaleOf g.scales.entries scales.entries := by
    constructor
    · exact fun ⟨e, he⟩ => ⟨e.2.scales, he.scales⟩
    · exact fun ⟨scales, hscales⟩ => ⟨(g.name, ⟨g.name, g.origin, scales⟩), rfl, rfl, rfl, hscales⟩
  have hkey : ∀ (d : String × ScaleDefinition) (e : String × Scale), IsScaleOf d e →
      some (Label.token .dropped d.2.label) = some e.1 :=
    fun _ _ he => congrArg some he.token.symm
  rw [htable, Table.exists_oneToOne_iff hkey, List.filterMap_eq_map', ← and_assoc]
  refine and_congr_left fun _ => ?_
  simp only [exists_isScaleOf_iff, tokens, List.forall_mem_map, forall_and]

theorem exists_isSensorOf_iff {rules : NameRules} {d : String × SensorDefinition} :
    (∃ e, IsSensorOf rules d e) ↔
      ∃ id, HexId.parse? d.1 = some id ∧ Label.isIdentifier (rules.token id d.2.label) := by
  simp only [isSensorOf_iff]
  constructor
  · rintro ⟨e, id, hid, hname, -⟩
    exact ⟨id, hid, hname⟩
  · rintro ⟨id, hid, hname⟩
    exact ⟨_, id, hid, hname, rfl⟩

theorem forall_exists_isSensorOf_iff {sensors : SensorDocument} {rules : NameRules} :
    (∀ d ∈ sensors.entries, ∃ e, IsSensorOf rules d e) ↔
      (∀ d ∈ sensors.entries, (HexId.parse? d.1).isSome) ∧
        ∀ token ∈ sensorTokens sensors rules, Label.isIdentifier token := by
  simp only [exists_isSensorOf_iff, Option.isSome_iff_exists]
  constructor
  · intro h
    refine ⟨fun d hd => (h d hd).imp fun _ hid => hid.1, fun token htoken => ?_⟩
    obtain ⟨d, hd, htoken⟩ := List.mem_filterMap.1 htoken
    obtain ⟨id, hid, rfl⟩ := Option.map_eq_some_iff.1 htoken
    obtain ⟨id', hid', hname⟩ := h d hd
    rwa [Option.some.inj (hid.symm.trans hid')]
  · rintro ⟨hids, hnames⟩ d hd
    obtain ⟨id, hid⟩ := hids d hd
    exact ⟨id, hid, hnames _ (List.mem_filterMap.2 ⟨d, hd, by rw [hid]; rfl⟩)⟩

/-! ### Whole documents -/

/-- What two documents must be like to have a catalogue. -/
structure AreAcceptable (scales : ScaleDocument) (sensors : SensorDocument) (rules : NameRules) :
    Prop where
  /-- The key of every sensor type is an id. -/
  sensorIds : ∀ d ∈ sensors.entries, (HexId.parse? d.1).isSome
  /-- The key of every scale is an id, in the shared groups and in the own ones. -/
  scaleIds : ∀ g ∈ groupDefinitions scales sensors rules, ∀ d ∈ g.scales.entries,
    (HexId.parse? d.1).isSome
  /-- The tokens of the scales of a group can stand in source code and differ from each other. -/
  scaleTokens : ∀ g ∈ groupDefinitions scales sensors rules,
    (∀ token ∈ g.tokens, Label.isIdentifier token) ∧ g.tokens.Nodup
  /-- The tokens of the sensor types can stand in source code and differ from each other. -/
  sensorTokens : (∀ token ∈ sensorTokens sensors rules, Label.isIdentifier token) ∧
    (sensorTokens sensors rules).Nodup
  /-- The names of the groups differ from each other. -/
  groupNames : ((groupDefinitions scales sensors rules).map GroupDefinition.name).Nodup
  /-- So do the names of their classes. -/
  classNames : ((groupDefinitions scales sensors rules).map GroupDefinition.className).Nodup
  /-- The references mean groups that the documents describe. -/
  references : ReferencesResolve scales sensors rules

namespace Catalog

variable {scales : ScaleDocument} {sensors : SensorDocument} {rules : NameRules}

/-- There is a catalogue of what two documents describe if every entry describes something and no
two of a kind have the same name. -/
theorem exists_represents_iff :
    (∃ catalog : Catalog, catalog.Represents scales sensors rules) ↔
      (∀ g ∈ groupDefinitions scales sensors rules, ∃ e, IsGroupOf g e) ∧
        ((groupDefinitions scales sensors rules).map GroupDefinition.name).Nodup ∧
        (∀ d ∈ sensors.entries, ∃ e, IsSensorOf rules d e) ∧
          (sensorTokens sensors rules).Nodup := by
  have hparts : (∃ catalog : Catalog, catalog.Represents scales sensors rules) ↔
      (∃ groups : Table ScaleGroup,
        OneToOne IsGroupOf (groupDefinitions scales sensors rules) groups.entries) ∧
      ∃ types : Table SensorType,
        OneToOne (IsSensorOf rules) sensors.entries types.entries := by
    constructor
    · exact fun ⟨catalog, h⟩ => ⟨⟨catalog.groups, h.groups⟩, catalog.sensors, h.sensors⟩
    · exact fun ⟨⟨groups, hgroups⟩, types, htypes⟩ => ⟨⟨groups, types⟩, hgroups, htypes⟩
  have hgroup : ∀ (g : GroupDefinition) (e : String × ScaleGroup), IsGroupOf g e →
      some g.name = some e.1 := fun _ _ he => congrArg some he.key.symm
  have hsensor : ∀ (d : String × SensorDefinition) (e : String × SensorType),
      IsSensorOf rules d e →
        (HexId.parse? d.1).map (fun id => rules.token id d.2.label) = some e.1 := by
    intro d e he
    rw [he.id, he.token]
    rfl
  rw [hparts, Table.exists_oneToOne_iff hgroup, Table.exists_oneToOne_iff hsensor,
    List.filterMap_eq_map', and_assoc]
  rfl

theorem Represents.nodup_classNames_iff {catalog : Catalog}
    (h : catalog.Represents scales sensors rules) :
    (catalog.groups.values.map ScaleGroup.className).Nodup ↔
      ((groupDefinitions scales sensors rules).map GroupDefinition.className).Nodup :=
  (h.map_groups_perm Label.className).nodup_iff

theorem areAcceptable_iff :
    AreAcceptable scales sensors rules ↔
      (∃ catalog : Catalog, catalog.Represents scales sensors rules) ∧
        ((groupDefinitions scales sensors rules).map GroupDefinition.className).Nodup ∧
        ReferencesResolve scales sensors rules := by
  simp only [exists_represents_iff, GroupDefinition.exists_isGroupOf_iff,
    forall_exists_isSensorOf_iff]
  constructor
  · rintro ⟨hsensorIds, hscaleIds, hscaleTokens, ⟨hnames, htokens⟩, hgroups, hclasses, hrefs⟩
    exact ⟨⟨fun g hg => ⟨hscaleIds g hg, hscaleTokens g hg⟩, hgroups, ⟨hsensorIds, hnames⟩,
      htokens⟩, hclasses, hrefs⟩
  · rintro ⟨⟨hscales, hgroups, ⟨hsensorIds, hnames⟩, htokens⟩, hclasses, hrefs⟩
    exact ⟨hsensorIds, fun g hg => (hscales g hg).1, fun g hg => (hscales g hg).2,
      ⟨hnames, htokens⟩, hgroups, hclasses, hrefs⟩

/-- **The documents that have a catalogue.** Two documents have a catalogue exactly if they are
acceptable, and it is the one that holds what they describe: one group for each shared group and
for each sensor type with scales of its own, with one scale for each of theirs, and one sensor type
for each entry. -/
theorem build_iff_areAcceptable (scales : ScaleDocument) (sensors : SensorDocument)
    (rules : NameRules) :
    ((∃ catalog, build scales sensors rules = .ok catalog) ↔
        AreAcceptable scales sensors rules) ∧
      ∀ catalog, build scales sensors rules = .ok catalog ↔
        AreAcceptable scales sensors rules ∧ catalog.Represents scales sensors rules := by
  have hbuild : ∀ catalog, build scales sensors rules = .ok catalog ↔
      AreAcceptable scales sensors rules ∧ catalog.Represents scales sensors rules := by
    intro catalog
    rw [build_eq_ok_iff_represents, areAcceptable_iff]
    constructor
    · rintro ⟨hrepresents, hrefs, hclasses⟩
      exact ⟨⟨⟨catalog, hrepresents⟩, hrepresents.nodup_classNames_iff.1 hclasses, hrefs⟩,
        hrepresents⟩
    · rintro ⟨⟨-, hclasses, hrefs⟩, hrepresents⟩
      exact ⟨hrepresents, hrefs, hrepresents.nodup_classNames_iff.2 hclasses⟩
  refine ⟨?_, hbuild⟩
  simp only [hbuild]
  constructor
  · exact fun ⟨_, h, _⟩ => h
  · intro h
    obtain ⟨catalog, hrepresents⟩ := (areAcceptable_iff.1 h).1
    exact ⟨catalog, h, hrepresents⟩

end Catalog

end SensorCatalog
