import SensorCatalog.Proofs.Catalog.Provenance
import SensorCatalog.Proofs.Label.LetterCase

/-!
# Groups by their tokens

Groups reach the table of a catalogue in two ways, as shared ones under the readable name of a key
and as own ones under the readable name of a sensor type's token, and references mean groups by the
readable name of a text. All three meet in tokens: a group has one token, its name is that token in
title case, and a reference means the group exactly if it has the token too.

Names of classes are weaker. Two groups with different names have classes with one name if their
tokens differ in underscores before digits only, and this is all that the check of the classes can
find in groups that have names of their own.

## Main definitions

* `GroupDefinition.HasToken`: the token that a group of two documents takes its name from.

## Main results

* `GroupDefinition.HasToken.name_eq_iff`: groups with one name are groups with one token.
* `Catalog.displayName_identifies_tokens`: readable names, and what they are used for.
* `Catalog.classCollision?_differBeforeDigits`: names of classes, and what their check finds.
-/

namespace SensorCatalog

open Label

namespace GroupDefinition

variable {scales : ScaleDocument} {sensors : SensorDocument} {rules : NameRules}
  {g g' : GroupDefinition} {t t' : String}

/-- The token that a group of two documents takes its name from. -/
inductive HasToken (scales : ScaleDocument) (sensors : SensorDocument) (rules : NameRules) :
    GroupDefinition → String → Prop
  /-- A shared group takes its name from the token of its key. -/
  | shared {d : String × ScaleDefinitions} (hd : d ∈ scales.entries) :
      HasToken scales sensors rules (ofShared d) (token .dropped d.1)
  /-- An own group takes its name from the token of its sensor type, which may have the
  parenthesized parts of the label. -/
  | own {d : String × SensorDefinition} {id : UInt8} {g : GroupDefinition}
      (hd : d ∈ sensors.entries) (hid : HexId.parse? d.1 = some id)
      (hg : ofSource? (rules.token id d.2.label) d.2.label d.2.scales = some g) :
      HasToken scales sensors rules g (rules.token id d.2.label)

/-- Every group of the documents has a token. -/
theorem mem_groupDefinitions_iff :
    g ∈ groupDefinitions scales sensors rules ↔ ∃ t, HasToken scales sensors rules g t := by
  constructor
  · intro hg
    rcases List.mem_append.1 hg with hg | hg
    · obtain ⟨d, hd, rfl⟩ := List.mem_map.1 hg
      exact ⟨_, .shared hd⟩
    · obtain ⟨d, hd, hg⟩ := List.mem_filterMap.1 hg
      obtain ⟨id, hid, hg⟩ := Option.bind_eq_some_iff.1 hg
      exact ⟨_, .own hd hid hg⟩
  · rintro ⟨t, hd | ⟨hd, hid, hg⟩⟩
    · exact List.mem_append_left _ (List.mem_map_of_mem hd)
    · refine List.mem_append_right _ (List.mem_filterMap.2 ⟨_, hd, ?_⟩)
      rw [ofSensor?, hid]
      exact hg

theorem name_ofSource? {token label : String} {source : ScaleSource}
    (h : ofSource? token label source = some g) : g.name = displayName token := by
  cases source with
  | shared reference => cases h
  | own definitions =>
    obtain rfl := Option.some.inj h
    rfl

/-- The name of a group is its token in title case. -/
theorem HasToken.name_eq (h : HasToken scales sensors rules g t) : g.name = titleCase t := by
  cases h with
  | shared _ => exact displayName_eq_titleCase _
  | @own d id _ _ _ hg =>
    have htoken : token .dropped (rules.token id d.2.label) = rules.token id d.2.label :=
      token_token _ _ _
    rw [name_ofSource? hg, displayName_eq_titleCase, htoken]

/-- The token of a group is found again in its name. -/
theorem HasToken.token_name (h : HasToken scales sensors rules g t) :
    token .dropped g.name = t := by
  cases h with
  | shared _ => exact token_displayName _ _
  | own _ _ hg =>
    rw [name_ofSource? hg, token_displayName]
    exact token_token _ _ _

/-- **Groups with one name** are groups with one token. -/
theorem HasToken.name_eq_iff (h : HasToken scales sensors rules g t)
    (h' : HasToken scales sensors rules g' t') : g.name = g'.name ↔ t = t' := by
  constructor
  · intro hname
    rw [← h.token_name, hname, h'.token_name]
  · rintro rfl
    rw [h.name_eq, h'.name_eq]

/-- A reference means the group with its token. -/
theorem HasToken.referencedGroup_eq_iff (h : HasToken scales sensors rules g t)
    {reference : String} :
    referencedGroup reference = g.name ↔ token .dropped (dropMark reference) = t := by
  constructor
  · intro hname
    rw [← h.token_name, ← hname, referencedGroup, token_displayName]
  · rintro rfl
    rw [h.name_eq, referencedGroup, displayName_eq_titleCase]

end GroupDefinition

namespace Catalog

open GroupDefinition

/-- **Readable names identify tokens.** A readable name is the token of its label in title case, and
has that token itself; so labels have one readable name exactly if they have one token. Hence the
names of groups, whether they come from a key or from the token of a sensor type, are equal exactly
if the tokens are, and a reference means a group exactly if it has the group's token. -/
theorem displayName_identifies_tokens :
    (∀ (a b : String) (parentheses : Parentheses),
      displayName a = titleCase (token .dropped a) ∧
        token parentheses (displayName a) = token .dropped a ∧
        displayName (displayName a) = displayName a ∧
        className (displayName a) = className a ∧
        (displayName a = displayName b ↔ token .dropped a = token .dropped b)) ∧
      ∀ (scales : ScaleDocument) (sensors : SensorDocument) (rules : NameRules),
        (∀ g, g ∈ groupDefinitions scales sensors rules ↔
          ∃ t, HasToken scales sensors rules g t) ∧
        ∀ (g g' : GroupDefinition) (t t' : String), HasToken scales sensors rules g t →
          HasToken scales sensors rules g' t' →
            (g.name = g'.name ↔ t = t') ∧
              ∀ reference, referencedGroup reference = g.name ↔
                token .dropped (dropMark reference) = t := by
  refine ⟨fun a b parentheses => ⟨displayName_eq_titleCase a, token_displayName parentheses a,
    displayName_displayName a, className_displayName a, displayName_eq_iff⟩,
    fun scales sensors rules => ⟨fun g => mem_groupDefinitions_iff, fun g g' t t' h h' =>
      ⟨h.name_eq_iff h', fun reference => h.referencedGroup_eq_iff⟩⟩⟩

/-- A document with an empty shared group, whose key has parentheses and spaces. -/
def flowGroups : ScaleDocument :=
  Table.ofList [("air flow (m3/h)", ∅)]

/-- A document with a sensor type whose own group is empty. -/
def flowSensors : SensorDocument :=
  Table.ofList [("0x0d", ⟨"Air-Flow", .own ∅⟩)]

/-- A key and a sensor type whose labels agree in their words have one group's name between them,
and a reference in another spelling means it. -/
theorem displayName_identifies_tokens_flow :
    ∃ g ∈ groupDefinitions flowGroups flowSensors ⟨[]⟩,
      ∃ g' ∈ groupDefinitions flowGroups flowSensors ⟨[]⟩, g.origin = "air flow (m3/h)" ∧
        g'.origin = "Air-Flow" ∧ g.name = g'.name ∧
        referencedGroup "$SCALES:AIR_FLOW" = g.name := by
  have hshared : HasToken flowGroups flowSensors ⟨[]⟩ (.ofShared ("air flow (m3/h)", ∅))
      (token .dropped "air flow (m3/h)") := .shared (List.mem_singleton_self _)
  have hid : HexId.parse? "0x0d" = some 13 := by decide
  have hown : HasToken flowGroups flowSensors ⟨[]⟩
      ⟨displayName (token .dropped "Air-Flow"), "Air-Flow", ∅⟩ (token .dropped "Air-Flow") :=
    .own (d := ("0x0d", ⟨"Air-Flow", .own ∅⟩)) (List.mem_singleton_self _) hid rfl
  obtain ⟨hmem, hboth⟩ := displayName_identifies_tokens.2 flowGroups flowSensors ⟨[]⟩
  obtain ⟨hnames, hreference⟩ := hboth _ _ _ _ hshared hown
  exact ⟨_, (hmem _).2 ⟨_, hshared⟩, _, (hmem _).2 ⟨_, hown⟩, rfl, rfl,
    hnames.2 (by decide +kernel), (hreference _).2 (by decide +kernel)⟩

/-! ### Names of classes -/

section

variable {scales : ScaleDocument} {sensors : SensorDocument} {rules : NameRules}
  {groups : Table ScaleGroup}

/-- A group of the documents stands under its name, which is a readable name. -/
theorem name_eq_and_displayName_eq
    (h : OneToOne IsGroupOf (groupDefinitions scales sensors rules) groups.entries)
    {e : String × ScaleGroup} (he : e ∈ groups.entries) :
    e.2.name = e.1 ∧ displayName e.2.name = e.2.name := by
  obtain ⟨g, hg, hgroup⟩ := h.exists_left_of_mem he
  obtain ⟨label, hname⟩ := exists_name_eq_displayName hg
  rw [hgroup.key, hgroup.name, hname]
  exact ⟨rfl, displayName_displayName label⟩

/-- What the check of the classes finds are groups with different names whose tokens differ in
underscores before digits only. -/
theorem differBeforeDigits_of_classCollision?
    (h : OneToOne IsGroupOf (groupDefinitions scales sensors rules) groups.entries)
    {first second : ScaleGroup} (hfound : classCollision? groups = some (first, second)) :
    first ∈ groups.values ∧ second ∈ groups.values ∧ first.name ≠ second.name ∧
      DifferBeforeDigits (token .dropped first.name) (token .dropped second.name) := by
  obtain ⟨name, name', hfirst, hsecond, hne, hclass⟩ := exists_of_classCollision? hfound
  obtain ⟨hkey, hreadable⟩ := name_eq_and_displayName_eq h hfirst
  obtain ⟨hkey', hreadable'⟩ := name_eq_and_displayName_eq h hsecond
  have hnames : first.name ≠ second.name := fun hsame =>
    hne (hkey.symm.trans (hsame.trans hkey'))
  refine ⟨Table.mem_values.2 ⟨_, hfirst⟩, Table.mem_values.2 ⟨_, hsecond⟩, hnames,
    fun htokens => hnames ?_, className_eq_className_iff.1 hclass⟩
  rw [← hreadable, ← hreadable', displayName_eq_iff]
  exact htokens

/-- The check finds something where there are such groups. -/
theorem classCollision?_ne_none {first second : ScaleGroup} (hfirst : first ∈ groups.values)
    (hsecond : second ∈ groups.values)
    (hdiffer : DifferBeforeDigits (token .dropped first.name) (token .dropped second.name)) :
    classCollision? groups ≠ none := by
  rw [ne_eq, classCollision?_eq_none_iff]
  intro hnodup
  have hclass : first.className = second.className := className_eq_className_iff.2 hdiffer.2
  obtain rfl := List.inj_on_of_nodup_map hnodup hfirst hsecond hclass
  exact hdiffer.1 rfl

end

/-- **Names of classes lose the underscores before digits** of tokens, and nothing else. So where
all groups of two documents have been added and the names of their classes are checked, the check
finds something exactly if the tokens of two groups differ there and nowhere else, and what it finds
are two such groups, with names of their own. -/
theorem classCollision?_differBeforeDigits :
    (∀ a b : String, className a = className b ↔
      closeUp (token .dropped a).toList = closeUp (token .dropped b).toList) ∧
      (∀ a : String,
        className a = pascalCase (token .dropped a) ++ String.ofList classEnding) ∧
      ∀ (scales : ScaleDocument) (sensors : SensorDocument) (rules : NameRules)
        (shared : Table ScaleGroup) (draft : Draft),
        scales.entries.foldlM (fun groups e => addShared groups e.1 e.2) ∅ = .ok shared →
          sensors.entries.foldlM (fun draft e => Draft.addSensor rules draft e.1 e.2)
            { groups := shared } = .ok draft →
          (classCollision? draft.groups ≠ none ↔
            ∃ first ∈ draft.groups.values, ∃ second ∈ draft.groups.values,
              DifferBeforeDigits (token .dropped first.name) (token .dropped second.name)) ∧
          ∀ first second, classCollision? draft.groups = some (first, second) →
            first ∈ draft.groups.values ∧ second ∈ draft.groups.values ∧
              first.name ≠ second.name ∧
              DifferBeforeDigits (token .dropped first.name) (token .dropped second.name) := by
  refine ⟨fun a b => className_eq_className_iff, className_eq_pascalCase,
    fun scales sensors rules shared draft hshared hdraft => ?_⟩
  have hgroups : OneToOne IsGroupOf (groupDefinitions scales sensors rules) draft.groups.entries :=
    Refusal.oneToOne_isGroupOf hshared (Draft.foldlM_addSensor_eq_ok_iff.1 hdraft)
  refine ⟨⟨fun hfound => ?_, ?_⟩,
    fun first second => differBeforeDigits_of_classCollision? hgroups⟩
  · obtain ⟨⟨first, second⟩, hfound⟩ := Option.ne_none_iff_exists'.1 hfound
    obtain ⟨hfirst, hsecond, -, hdiffer⟩ := differBeforeDigits_of_classCollision? hgroups hfound
    exact ⟨first, hfirst, second, hsecond, hdiffer⟩
  · rintro ⟨first, hfirst, second, hsecond, hdiffer⟩
    exact classCollision?_ne_none hfirst hsecond hdiffer

/-- A document with two empty shared groups, whose keys differ in a point between digits. -/
def dustGroups : ScaleDocument :=
  Table.ofList [("PM2.5", ∅), ("PM25", ∅)]

/-- The groups of that document. -/
def dustTable : Table ScaleGroup :=
  Table.ofList [("Pm2 5", ⟨"Pm2 5", "PM2.5", ∅⟩), ("Pm25", ⟨"Pm25", "PM25", ∅⟩)]

/-- The point is an underscore in the token, and nothing in the name of the class. -/
theorem classCollision?_differBeforeDigits_dust :
    dustGroups.entries.foldlM (fun groups e => addShared groups e.1 e.2) ∅ = .ok dustTable ∧
      classCollision? dustTable =
        some (⟨"Pm2 5", "PM2.5", ∅⟩, ⟨"Pm25", "PM25", ∅⟩) ∧
      DifferBeforeDigits "PM2_5" "PM25" := by
  have hshared : dustGroups.entries.foldlM (fun groups e => addShared groups e.1 e.2) ∅ =
      .ok dustTable := by decide +kernel
  have hfound : classCollision? dustTable =
      some (⟨"Pm2 5", "PM2.5", ∅⟩, ⟨"Pm25", "PM25", ∅⟩) := by decide +kernel
  obtain ⟨-, -, -, hdiffer⟩ :=
    (classCollision?_differBeforeDigits.2.2 dustGroups ∅ ⟨[]⟩ dustTable { groups := dustTable }
      hshared rfl).2 _ _ hfound
  have htoken : token .dropped "Pm2 5" = "PM2_5" := by decide +kernel
  have htoken' : token .dropped "Pm25" = "PM25" := by decide +kernel
  rw [htoken, htoken'] at hdiffer
  exact ⟨hshared, hfound, hdiffer⟩

end Catalog

end SensorCatalog
