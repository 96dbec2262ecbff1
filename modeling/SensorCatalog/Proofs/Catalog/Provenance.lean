import SensorCatalog.Proofs.Catalog.Acceptance
import SensorCatalog.Proofs.Label.SourceName

/-!
# Refusals that the documents bear out

A refusal names what is wrong with the documents: a key, a label and its token, two labels with one
token, or a reference. What it names is always there. The first of two entries with one name is told
by what is kept of it in a table that is only partly filled; that table holds just what the entries
before describe, so the first entry is one of those. And a reference is found to mean no group only
after all groups of both documents have been added.

## Main definitions

* `Refusal.IsBorneOut`: two documents have what a refusal names.

## Main results

* `Refusal.isBorneOut_of_ofDefinitions`, `Refusal.isBorneOut_of_addGroup`: a group of scales.
* `Refusal.isBorneOut_of_foldlM_addShared`, `Refusal.isBorneOut_of_foldlM_addSensor`: a document.
* `Catalog.isBorneOut_of_build`: the documents that are refused.
-/

namespace SensorCatalog

open Fallible

/-! ### Steps that fail -/

theorem readId_eq_error_iff {raw : String} {refusal : Refusal} :
    readId raw = .error refusal ↔ HexId.parse? raw = none ∧ refusal = .invalidId raw := by
  rw [readId]
  cases HexId.parse? raw <;> simp [eq_comm]

theorem checkName_eq_error_iff {scope : Scope} {label token : String} {refusal : Refusal} :
    checkName scope label token = .error refusal ↔
      ¬ Label.isIdentifier token ∧ refusal = .invalidName scope label token := by
  rw [checkName]
  cases Label.isIdentifier token <;> simp [eq_comm]

theorem insertNew_eq_error_iff {α : Type} {scope : Scope} {tell : α → String} {t : Table α}
    {name : String} {entry : α} {refusal : Refusal} :
    insertNew scope tell t name entry = .error refusal ↔
      ∃ first, (name, first) ∈ t.entries ∧
        refusal = .collision scope name (tell first) (tell entry) := by
  simp only [insertNew, ← Table.find?_eq_some_iff]
  cases t.find? name <;> simp [eq_comm]

theorem addScale_eq_error_iff {groupName : String} {scales : Table Scale} {raw : String}
    {definition : ScaleDefinition} {refusal : Refusal} :
    addScale groupName scales raw definition = .error refusal ↔
      (HexId.parse? raw = none ∧ refusal = .invalidId raw) ∨
      ∃ id, HexId.parse? raw = some id ∧
        let token := Label.token .dropped definition.label
        (¬ Label.isIdentifier token ∧
            refusal = .invalidName (.scalesOf groupName) definition.label token ∨
          Label.isIdentifier token ∧ ∃ first, (token, first) ∈ scales.entries ∧
            refusal =
              .collision (.scalesOf groupName) token first.label definition.label) := by
  simp only [addScale, bind_eq_error_iff, readId_eq_ok_iff, readId_eq_error_iff,
    checkName_eq_ok_iff, checkName_eq_error_iff, insertNew_eq_error_iff, exists_const]

theorem addShared_eq_error_iff {groups : Table ScaleGroup} {d : String × ScaleDefinitions}
    {refusal : Refusal} :
    addShared groups d.1 d.2 = .error refusal ↔
      (ScaleGroup.ofDefinitions (GroupDefinition.ofShared d).name
        (GroupDefinition.ofShared d).origin (GroupDefinition.ofShared d).scales >>=
          addGroup groups) = .error refusal :=
  Iff.rfl

theorem Draft.settle_eq_error_iff {draft : Draft} {token label : String} {source : ScaleSource}
    {refusal : Refusal} :
    draft.settle token label source = .error refusal ↔
      ∃ g, GroupDefinition.ofSource? token label source = some g ∧
        (ScaleGroup.ofDefinitions g.name g.origin g.scales >>= addGroup draft.groups) =
          .error refusal := by
  cases source with
  | shared reference => simp [settle, GroupDefinition.ofSource?]
  | own definitions =>
    simp [settle, GroupDefinition.ofSource?, bind_eq_error_iff, pure, Except.pure]

theorem Draft.addSensor_eq_error_iff {rules : NameRules} {draft : Draft} {raw : String}
    {definition : SensorDefinition} {refusal : Refusal} :
    draft.addSensor rules raw definition = .error refusal ↔
      (HexId.parse? raw = none ∧ refusal = .invalidId raw) ∨
      ∃ id, HexId.parse? raw = some id ∧
        let token := rules.token id definition.label
        (¬ Label.isIdentifier token ∧
            refusal = .invalidName .sensorTypes definition.label token ∨
          Label.isIdentifier token ∧
            (draft.settle token definition.label definition.scales = .error refusal ∨
              ∃ settled group,
                draft.settle token definition.label definition.scales = .ok (settled, group) ∧
                ∃ first, (token, first) ∈ settled.sensors.entries ∧
                  refusal = .collision .sensorTypes token first.label definition.label)) := by
  simp [addSensor, bind_eq_error_iff, readId_eq_ok_iff, readId_eq_error_iff,
    checkName_eq_ok_iff, checkName_eq_error_iff, insertNew_eq_error_iff, pure, Except.pure]

/-- An element stands before another one that comes later in a list. -/
theorem pair_sublist {α : Type} {done rest : List α} {a b : α} (ha : a ∈ done) :
    [a, b].Sublist (done ++ b :: rest) :=
  (List.singleton_sublist.2 ha).append (List.singleton_sublist.2 List.mem_cons_self)

/-- The first group whose class has the name of an earlier group's class stands after that group. -/
theorem classCollisionAfter?_eq_some {seen groups : List ScaleGroup} {first second : ScaleGroup}
    (h : classCollisionAfter? seen groups = some (first, second)) :
    ∃ done rest, groups = done ++ second :: rest ∧ (first ∈ seen ∨ first ∈ done) ∧
      first.className = second.className := by
  induction groups generalizing seen with
  | nil => cases h
  | cons group groups ih =>
    rw [classCollisionAfter?] at h
    split at h
    · next other hother =>
      obtain ⟨rfl, rfl⟩ := Prod.mk.inj (Option.some.inj h)
      have hsame : other.className = group.className := by simpa using List.find?_some hother
      exact ⟨[], groups, rfl, .inl (List.mem_of_find?_eq_some hother), hsame⟩
    · obtain ⟨done, rest, rfl, hfirst, hsame⟩ := ih h
      refine ⟨group :: done, rest, rfl, ?_, hsame⟩
      rcases hfirst with hseen | hdone
      · rcases List.mem_cons.1 hseen with rfl | hseen
        · exact .inr List.mem_cons_self
        · exact .inl hseen
      · exact .inr (List.mem_cons_of_mem _ hdone)

/-- Two groups whose classes have the same name stand under different names. -/
theorem exists_of_classCollision? {groups : Table ScaleGroup} {first second : ScaleGroup}
    (h : classCollision? groups = some (first, second)) :
    ∃ name name', (name, first) ∈ groups.entries ∧ (name', second) ∈ groups.entries ∧
      name ≠ name' ∧ first.className = second.className := by
  obtain ⟨done, rest, hvalues, hfirst, hsame⟩ := classCollisionAfter?_eq_some h
  obtain ⟨before, after, hentries, rfl, hafter⟩ := List.map_eq_append_iff.1 hvalues
  obtain ⟨e', after, rfl, rfl, -⟩ := List.map_eq_cons_iff.1 hafter
  obtain ⟨e, he, rfl⟩ := List.mem_map.1 (hfirst.resolve_left List.not_mem_nil)
  have hsorted := groups.sorted
  rw [hentries, List.pairwise_append] at hsorted
  refine ⟨e.1, e'.1, hentries ▸ List.mem_append_left _ he,
    hentries ▸ List.mem_append_right _ List.mem_cons_self, ?_, hsame⟩
  exact String.ne_of_lt (hsorted.2.2 e he e' List.mem_cons_self)

/-! ### What refusals name -/

theorem eq_empty_or_beginsWithDigit {parentheses : Label.Parentheses} {label : String}
    (h : ¬ Label.isIdentifier (Label.token parentheses label)) :
    Label.token parentheses label = "" ∨
      Label.beginsWithDigit (Label.token parentheses label) := by
  rw [Label.isIdentifier] at h
  rw [Label.beginsWithDigit]
  cases hname : (Label.token parentheses label).toList with
  | nil => exact .inl (by rw [← String.toList_inj, hname]; rfl)
  | cons c cs =>
    have hc : c ∈ (Label.token parentheses label).toList := hname ▸ List.mem_cons_self
    simp only [hname, List.head?_cons, Option.any_some, Bool.or_eq_true, beq_iff_eq] at h ⊢
    rcases Label.mem_token hc with hupper | hdigit | hunderscore
    · exact absurd (.inl (Bool.or_eq_true_iff.2 (.inl hupper))) h
    · exact .inr hdigit
    · exact absurd (.inr hunderscore) h

/-- Two documents have what a refusal names. Two entries with one name stand one before the other.
Groups whose classes have one name are different in that their own names are. -/
inductive Refusal.IsBorneOut (scales : ScaleDocument) (sensors : SensorDocument)
    (rules : NameRules) : Refusal → Prop
  /-- The key of a sensor type is no id. -/
  | sensorId {d : String × SensorDefinition} (hd : d ∈ sensors.entries)
      (hid : HexId.parse? d.1 = none) : IsBorneOut scales sensors rules (.invalidId d.1)
  /-- The key of a scale, in a shared group or in the own group of a sensor type, is no id. -/
  | scaleId {g : GroupDefinition} {d : String × ScaleDefinition}
      (hg : g ∈ groupDefinitions scales sensors rules) (hd : d ∈ g.scales.entries)
      (hid : HexId.parse? d.1 = none) : IsBorneOut scales sensors rules (.invalidId d.1)
  /-- The token of a sensor type is empty or begins with a digit. -/
  | sensorName {d : String × SensorDefinition} {id : UInt8} {token : String}
      (hd : d ∈ sensors.entries) (hid : HexId.parse? d.1 = some id)
      (htoken : rules.token id d.2.label = token)
      (hname : token = "" ∨ Label.beginsWithDigit token) :
      IsBorneOut scales sensors rules (.invalidName .sensorTypes d.2.label token)
  /-- The token of a scale is empty or begins with a digit. -/
  | scaleName {g : GroupDefinition} {d : String × ScaleDefinition} {token : String}
      (hg : g ∈ groupDefinitions scales sensors rules) (hd : d ∈ g.scales.entries)
      (htoken : Label.token .dropped d.2.label = token)
      (hname : token = "" ∨ Label.beginsWithDigit token) :
      IsBorneOut scales sensors rules (.invalidName (.scalesOf g.name) d.2.label token)
  /-- Two sensor types have one token. -/
  | sensors {d d' : String × SensorDefinition} {id id' : UInt8} {token : String}
      (hd : [d, d'].Sublist sensors.entries) (hid : HexId.parse? d.1 = some id)
      (hid' : HexId.parse? d'.1 = some id') (htoken : rules.token id d.2.label = token)
      (htoken' : rules.token id' d'.2.label = token) :
      IsBorneOut scales sensors rules (.collision .sensorTypes token d.2.label d'.2.label)
  /-- Two scales of a group have one token. -/
  | scales {g : GroupDefinition} {d d' : String × ScaleDefinition} {token : String}
      (hg : g ∈ groupDefinitions scales sensors rules) (hd : [d, d'].Sublist g.scales.entries)
      (htoken : Label.token .dropped d.2.label = token)
      (htoken' : Label.token .dropped d'.2.label = token) :
      IsBorneOut scales sensors rules (.collision (.scalesOf g.name) token d.2.label d'.2.label)
  /-- Two groups have one name. -/
  | groups {g g' : GroupDefinition} {name : String}
      (hg : [g, g'].Sublist (groupDefinitions scales sensors rules)) (hname : g.name = name)
      (hname' : g'.name = name) :
      IsBorneOut scales sensors rules (.collision .scaleGroups name g.origin g'.origin)
  /-- The classes of two groups have one name. -/
  | classes {g g' : GroupDefinition} {name : String}
      (hg : g ∈ groupDefinitions scales sensors rules)
      (hg' : g' ∈ groupDefinitions scales sensors rules) (hne : g.name ≠ g'.name)
      (hclass : g.className = name) (hclass' : g'.className = name) :
      IsBorneOut scales sensors rules (.collision .scaleGroups name g.origin g'.origin)
  /-- A sensor type has a reference, and no group of the documents has the name that it means. -/
  | reference {d : String × SensorDefinition} {id : UInt8} {token text : String}
      (hd : d ∈ sensors.entries) (hid : HexId.parse? d.1 = some id)
      (htoken : rules.token id d.2.label = token) (hsource : d.2.scales = .shared text)
      (hids : ∀ d ∈ sensors.entries, (HexId.parse? d.1).isSome)
      (hnone : ∀ g ∈ groupDefinitions scales sensors rules, g.name ≠ referencedGroup text) :
      IsBorneOut scales sensors rules (.unknownGroup token text)

namespace Refusal

variable {scales : ScaleDocument} {sensors : SensorDocument} {rules : NameRules}
  {refusal : Refusal}

/-! ### Groups of scales -/

/-- A group of scales that cannot be made. -/
theorem isBorneOut_of_ofDefinitions {g : GroupDefinition}
    (hg : g ∈ groupDefinitions scales sensors rules)
    (h : ScaleGroup.ofDefinitions g.name g.origin g.scales = .error refusal) :
    refusal.IsBorneOut scales sensors rules := by
  rw [ScaleGroup.ofDefinitions, bind_eq_error_iff] at h
  rcases h with h | ⟨_, -, h⟩
  · obtain ⟨done, d, rest, mid, hentries, hdone, hstep⟩ := foldlM_eq_error_iff.1 h
    have hd : d ∈ g.scales.entries := hentries ▸ List.mem_append_right _ List.mem_cons_self
    rcases addScale_eq_error_iff.1 hstep with
      ⟨hid, rfl⟩ | ⟨id, -, ⟨hname, rfl⟩ | ⟨-, first, hfirst, rfl⟩⟩
    · exact .scaleId hg hd hid
    · exact .scaleName hg hd rfl (eq_empty_or_beginsWithDigit hname)
    · -- the table holds the entries before this one, so the first label is that of one of them
      obtain ⟨d', hd', hscale⟩ := (foldlM_addScale_eq_ok_iff.1 hdone).exists_left_of_mem hfirst
      rw [hscale.label]
      exact .scales hg (hentries ▸ pair_sublist hd') hscale.token.symm rfl
  · cases h

/-- A group that cannot be made or added, beside groups that stand before it. -/
theorem isBorneOut_of_addGroup {g : GroupDefinition} {done rest : List GroupDefinition}
    {groups : Table ScaleGroup} (hgroups : OneToOne IsGroupOf done groups.entries)
    (hdefinitions : groupDefinitions scales sensors rules = done ++ g :: rest)
    (h : (ScaleGroup.ofDefinitions g.name g.origin g.scales >>= addGroup groups) =
      .error refusal) : refusal.IsBorneOut scales sensors rules := by
  rcases bind_eq_error_iff.1 h with h | ⟨group, hgroup, h⟩
  · exact isBorneOut_of_ofDefinitions
      (hdefinitions ▸ List.mem_append_right _ List.mem_cons_self) h
  · obtain ⟨first, hfirst, rfl⟩ := insertNew_eq_error_iff.1 h
    have hg := ScaleGroup.ofDefinitions_eq_ok_iff_isGroupOf.1 hgroup
    obtain ⟨g', hg', hmade⟩ := hgroups.exists_left_of_mem hfirst
    rw [hmade.origin, hg.origin]
    exact .groups (hdefinitions ▸ pair_sublist hg') hmade.key.symm hg.name.symm

/-- Shared groups that cannot be added. -/
theorem isBorneOut_of_foldlM_addShared
    (h : scales.entries.foldlM (fun groups e => addShared groups e.1 e.2) ∅ = .error refusal) :
    refusal.IsBorneOut scales sensors rules := by
  obtain ⟨done, d, rest, mid, hentries, hdone, hstep⟩ := foldlM_eq_error_iff.1 h
  have hdefinitions : groupDefinitions scales sensors rules =
      done.map GroupDefinition.ofShared ++ GroupDefinition.ofShared d ::
        (rest.map GroupDefinition.ofShared ++
          sensors.entries.filterMap (GroupDefinition.ofSensor? rules)) := by
    rw [groupDefinitions, hentries, List.map_append, List.map_cons, List.append_assoc,
      List.cons_append]
  exact isBorneOut_of_addGroup (Table.adds_empty_iff.1 (foldlM_addShared_eq_ok_iff.1 hdone))
    hdefinitions (addShared_eq_error_iff.1 hstep)

/-! ### Sensor types -/

/-- The groups of the shared definitions and of the sensor types before. -/
theorem oneToOne_isGroupOf {groups : Table ScaleGroup} {ds : List (String × SensorDefinition)}
    {draft : Draft}
    (hshared : scales.entries.foldlM (fun groups e => addShared groups e.1 e.2) ∅ = .ok groups)
    (hdraft : Draft.Extends rules ds { groups } draft) :
    OneToOne IsGroupOf (scales.entries.map GroupDefinition.ofShared ++
      ds.filterMap (GroupDefinition.ofSensor? rules)) draft.groups.entries :=
  Table.adds_empty_iff.1
    (Table.adds_append_iff.2 ⟨groups, foldlM_addShared_eq_ok_iff.1 hshared, hdraft.groups⟩)

/-- Sensor types that cannot be added. -/
theorem isBorneOut_of_foldlM_addSensor {groups : Table ScaleGroup}
    (hshared : scales.entries.foldlM (fun groups e => addShared groups e.1 e.2) ∅ = .ok groups)
    (h : sensors.entries.foldlM (fun draft e => Draft.addSensor rules draft e.1 e.2)
      { groups : Draft } = .error refusal) : refusal.IsBorneOut scales sensors rules := by
  obtain ⟨done, d, rest, mid, hentries, hdone, hstep⟩ := foldlM_eq_error_iff.1 h
  have hd : d ∈ sensors.entries := hentries ▸ List.mem_append_right _ List.mem_cons_self
  have hmid := Draft.foldlM_addSensor_eq_ok_iff.1 hdone
  rcases Draft.addSensor_eq_error_iff.1 hstep with ⟨hid, rfl⟩ | ⟨id, hid, hrest⟩
  · exact .sensorId hd hid
  rcases hrest with ⟨hname, rfl⟩ | ⟨-, hsettle | ⟨settled, group, hsettle, first, hfirst, rfl⟩⟩
  · exact .sensorName hd hid rfl (eq_empty_or_beginsWithDigit hname)
  · obtain ⟨g, hg, hadd⟩ := Draft.settle_eq_error_iff.1 hsettle
    have hown : GroupDefinition.ofSensor? rules d = some g := by
      rw [GroupDefinition.ofSensor?, hid]
      exact hg
    have hdefinitions : groupDefinitions scales sensors rules =
        (scales.entries.map GroupDefinition.ofShared ++
          done.filterMap (GroupDefinition.ofSensor? rules)) ++ g ::
            rest.filterMap (GroupDefinition.ofSensor? rules) := by
      rw [groupDefinitions, hentries, List.filterMap_append, List.filterMap_cons_some hown,
        List.append_assoc]
    exact isBorneOut_of_addGroup (oneToOne_isGroupOf hshared hmid) hdefinitions hadd
  · have hmade : OneToOne (IsSensorOf rules) done mid.sensors.entries :=
      Table.adds_empty_iff.1 hmid.sensors
    -- the sensor type's own group may have been added since, but no sensor type
    rw [(Draft.settle_eq_ok_iff.1 hsettle).2.1] at hfirst
    obtain ⟨d', hd', hsensor⟩ := hmade.exists_left_of_mem hfirst
    rw [hsensor.label]
    exact .sensors (hentries ▸ pair_sublist hd') hsensor.id hid hsensor.token.symm rfl

/-! ### Checks of the whole -/

/-- A reference that means no group. -/
theorem isBorneOut_of_unknownReference? {groups : Table ScaleGroup} {draft : Draft}
    {r : Reference} (hdraft : Draft.Extends rules sensors.entries { groups } draft)
    (hgroups : OneToOne IsGroupOf (groupDefinitions scales sensors rules) draft.groups.entries)
    (h : draft.unknownReference? = some r) :
    (Refusal.unknownGroup r.sensor r.text).IsBorneOut scales sensors rules := by
  obtain ⟨d, hd, id, hid, htoken, hsource⟩ :=
    hdraft.exists_of_mem_references (List.mem_reverse.1 (List.mem_of_find?_eq_some h))
  -- every sensor type has been added, so no own group is missing among the groups
  have hids : ∀ d ∈ sensors.entries, (HexId.parse? d.1).isSome := by
    intro d hd
    obtain ⟨e, -, hsensor⟩ := (Table.adds_empty_iff.1 hdraft.sensors).exists_right_of_mem hd
    rw [hsensor.id, Option.isSome_some]
  have hnone : ∀ g ∈ groupDefinitions scales sensors rules, g.name ≠ referencedGroup r.text := by
    intro g hg hname
    obtain ⟨e, he, hmade⟩ := hgroups.exists_right_of_mem hg
    have hthere : draft.groups.contains (referencedGroup r.text) :=
      Table.contains_iff.2 ⟨e.2, hname ▸ hmade.key ▸ he⟩
    simpa [hthere] using List.find?_some h
  exact .reference hd hid htoken hsource hids hnone

/-- Groups whose classes have one name. -/
theorem isBorneOut_of_classCollision? {groups : Table ScaleGroup} {first second : ScaleGroup}
    (hgroups : OneToOne IsGroupOf (groupDefinitions scales sensors rules) groups.entries)
    (h : classCollision? groups = some (first, second)) :
    (Refusal.collision .scaleGroups second.className first.origin second.origin).IsBorneOut
      scales sensors rules := by
  obtain ⟨name, name', hfirst, hsecond, hne, hsame⟩ := exists_of_classCollision? h
  obtain ⟨g, hg, hmade⟩ := hgroups.exists_left_of_mem hfirst
  obtain ⟨g', hg', hmade'⟩ := hgroups.exists_left_of_mem hsecond
  have hclass : first.className = g.className := congrArg Label.className hmade.name
  have hclass' : second.className = g'.className := congrArg Label.className hmade'.name
  rw [hmade.origin, hmade'.origin]
  refine .classes hg hg' (fun hname => hne ?_) (hclass.symm.trans hsame) hclass'.symm
  exact hmade.key.trans (hname.trans hmade'.key.symm)

end Refusal

/-- **Refusals are borne out.** The documents that are refused have what the refusal names. -/
theorem Catalog.isBorneOut_of_build {scales : ScaleDocument} {sensors : SensorDocument}
    {rules : NameRules} {refusal : Refusal}
    (h : Catalog.build scales sensors rules = .error refusal) :
    refusal.IsBorneOut scales sensors rules := by
  rw [Catalog.build, bind_eq_error_iff] at h
  rcases h with hshared | ⟨groups, hshared, h⟩
  · exact Refusal.isBorneOut_of_foldlM_addShared hshared
  rw [bind_eq_error_iff] at h
  rcases h with hfails | ⟨draft, hdone, h⟩
  · exact Refusal.isBorneOut_of_foldlM_addSensor hshared hfails
  have hdraft := Draft.foldlM_addSensor_eq_ok_iff.1 hdone
  have hgroups := Refusal.oneToOne_isGroupOf hshared hdraft
  cases hunknown : draft.unknownReference? with
  | some r =>
    simp only [hunknown] at h
    obtain rfl := Except.error.inj h
    exact Refusal.isBorneOut_of_unknownReference? hdraft hgroups hunknown
  | none =>
    simp only [hunknown] at h
    cases hcollision : classCollision? draft.groups with
    | some pair =>
      simp only [hcollision] at h
      obtain rfl := Except.error.inj h
      exact Refusal.isBorneOut_of_classCollision? hgroups hcollision
    | none =>
      simp only [hcollision] at h
      cases h

/-- A document with two sensor types whose labels differ in parentheses only. -/
def waterSensors : SensorDocument :=
  Table.ofList [("0x01", ⟨"Temperature (Air)", .shared "$SCALES:temperature"⟩),
    ("0x17", ⟨"Temperature (Water)", .shared "$SCALES:temperature"⟩)]

/-- Two labels that are refused, and a reference that is if one of them keeps its parentheses. -/
theorem isBorneOut_water :
    (Catalog.build ∅ waterSensors ⟨[]⟩ = .error (.collision .sensorTypes "TEMPERATURE"
      "Temperature (Air)" "Temperature (Water)") ∧
      Refusal.IsBorneOut ∅ waterSensors ⟨[]⟩ (.collision .sensorTypes "TEMPERATURE"
        "Temperature (Air)" "Temperature (Water)")) ∧
    Catalog.build ∅ waterSensors ⟨[0x17]⟩ =
      .error (.unknownGroup "TEMPERATURE" "$SCALES:temperature") ∧
      Refusal.IsBorneOut ∅ waterSensors ⟨[0x17]⟩
        (.unknownGroup "TEMPERATURE" "$SCALES:temperature") := by
  have hcollision : Catalog.build ∅ waterSensors ⟨[]⟩ = .error (.collision .sensorTypes
      "TEMPERATURE" "Temperature (Air)" "Temperature (Water)") := by
    decide +kernel
  have hunknown : Catalog.build ∅ waterSensors ⟨[0x17]⟩ =
      .error (.unknownGroup "TEMPERATURE" "$SCALES:temperature") := by
    decide +kernel
  exact ⟨⟨hcollision, Catalog.isBorneOut_of_build hcollision⟩, hunknown,
    Catalog.isBorneOut_of_build hunknown⟩

end SensorCatalog
