import SensorCatalog.Catalog.Build
import SensorCatalog.Proofs.Fallible

/-!
# The steps of making a catalogue

Each step that makes a catalogue succeeds under conditions of its own and does one thing. Both are
stated here step by step, so that what is proved about catalogues follows from them alone.

## Main results

* `addScale_eq_ok_iff`, `addShared_eq_ok_iff`, `Draft.addSensor_eq_ok_iff`: an entry of a document.
* `Catalog.build_eq_ok_iff`: the whole catalogue.
-/

namespace SensorCatalog

open Fallible

/-! ### Checks -/

theorem readId_eq_ok_iff {raw : String} {id : UInt8} :
    readId raw = .ok id ↔ HexId.parse? raw = some id := by
  rw [readId]
  cases HexId.parse? raw <;> simp

theorem checkName_eq_ok_iff {scope : Scope} {label token : String} {u : Unit} :
    checkName scope label token = .ok u ↔ Label.isIdentifier token := by
  rw [checkName]
  cases Label.isIdentifier token <;> simp

theorem insertNew_eq_ok_iff {α : Type} {scope : Scope} {tell : α → String} {t t' : Table α}
    {name : String} {entry : α} :
    insertNew scope tell t name entry = .ok t' ↔
      t.find? name = none ∧ t' = t.insert name entry := by
  rw [insertNew]
  cases t.find? name with
  | some first => simp
  | none => simp [eq_comm]

/-! ### Groups of scales -/

theorem addScale_eq_ok_iff {groupName : String} {scales scales' : Table Scale} {raw : String}
    {definition : ScaleDefinition} :
    addScale groupName scales raw definition = .ok scales' ↔
      ∃ id token, HexId.parse? raw = some id ∧ token = Label.token .dropped definition.label ∧
        Label.isIdentifier token ∧ scales.find? token = none ∧
        scales' = scales.insert token ⟨id, definition.label⟩ := by
  simp only [addScale, bind_eq_ok_iff, readId_eq_ok_iff, checkName_eq_ok_iff,
    insertNew_eq_ok_iff]
  constructor
  · rintro ⟨id, hid, -, hname, hnew⟩
    exact ⟨id, _, hid, rfl, hname, hnew⟩
  · rintro ⟨id, -, hid, rfl, hname, hnew⟩
    exact ⟨id, hid, (), hname, hnew⟩

theorem ScaleGroup.ofDefinitions_eq_ok_iff {name origin : String} {definitions : ScaleDefinitions}
    {group : ScaleGroup} :
    ScaleGroup.ofDefinitions name origin definitions = .ok group ↔
      ∃ scales, definitions.entries.foldlM (fun scales e => addScale name scales e.1 e.2) ∅ =
        .ok scales ∧ group = ⟨name, origin, scales⟩ := by
  simp only [ScaleGroup.ofDefinitions, bind_eq_ok_iff]
  exact exists_congr fun scales => and_congr_right fun _ => by simp [pure, Except.pure, eq_comm]

theorem addShared_eq_ok_iff {groups groups' : Table ScaleGroup} {key : String}
    {definitions : ScaleDefinitions} :
    addShared groups key definitions = .ok groups' ↔
      ∃ group, ScaleGroup.ofDefinitions (Label.displayName key) key definitions = .ok group ∧
        groups.find? group.name = none ∧ groups' = groups.insert group.name group := by
  simp only [addShared, addGroup, bind_eq_ok_iff, insertNew_eq_ok_iff]

/-! ### Sensor types -/

theorem Draft.settle_shared_eq_ok_iff {draft draft' : Draft} {token label reference name : String} :
    draft.settle token label (.shared reference) = .ok (draft', name) ↔
      name = referencedGroup reference ∧
        draft' = { draft with references := ⟨token, reference⟩ :: draft.references } := by
  simp only [Draft.settle, Except.ok.injEq, Prod.mk.injEq]
  exact ⟨fun h => ⟨h.2.symm, h.1.symm⟩, fun h => ⟨h.2.symm, h.1.symm⟩⟩

theorem Draft.settle_own_eq_ok_iff {draft draft' : Draft} {token label name : String}
    {definitions : ScaleDefinitions} :
    draft.settle token label (.own definitions) = .ok (draft', name) ↔
      ∃ group, ScaleGroup.ofDefinitions (Label.displayName token) label definitions = .ok group ∧
        draft.groups.find? group.name = none ∧ name = group.name ∧
        draft' = { draft with groups := draft.groups.insert group.name group } := by
  simp only [Draft.settle, addGroup, bind_eq_ok_iff, insertNew_eq_ok_iff]
  refine exists_congr fun group => and_congr_right fun _ => ?_
  constructor
  · rintro ⟨groups, ⟨hnew, rfl⟩, h⟩
    obtain ⟨rfl, rfl⟩ := Prod.mk.inj (Except.ok.inj h)
    exact ⟨hnew, rfl, rfl⟩
  · rintro ⟨hnew, rfl, rfl⟩
    exact ⟨_, ⟨hnew, rfl⟩, rfl⟩

theorem Draft.addSensor_eq_ok_iff {rules : NameRules} {draft draft' : Draft} {raw : String}
    {definition : SensorDefinition} :
    draft.addSensor rules raw definition = .ok draft' ↔
      ∃ id token settled group, HexId.parse? raw = some id ∧
        token = rules.token id definition.label ∧ Label.isIdentifier token ∧
        draft.settle token definition.label definition.scales = .ok (settled, group) ∧
        settled.sensors.find? token = none ∧
        draft' = { settled with
          sensors := settled.sensors.insert token ⟨id, definition.label, group⟩ } := by
  simp only [Draft.addSensor, bind_eq_ok_iff, readId_eq_ok_iff, checkName_eq_ok_iff,
    insertNew_eq_ok_iff]
  constructor
  · rintro ⟨id, hid, -, hname, ⟨settled, group⟩, hsettled, sensors, ⟨hnew, rfl⟩, h⟩
    exact ⟨id, _, settled, group, hid, rfl, hname, hsettled, hnew, (Except.ok.inj h).symm⟩
  · rintro ⟨id, -, settled, group, hid, rfl, hname, hsettled, hnew, rfl⟩
    exact ⟨id, hid, (), hname, (settled, group), hsettled, _, ⟨hnew, rfl⟩, rfl⟩

/-! ### The whole catalogue -/

theorem Draft.unknownReference?_eq_none_iff {draft : Draft} :
    draft.unknownReference? = none ↔
      ∀ r ∈ draft.references, draft.groups.contains (referencedGroup r.text) := by
  simp [Draft.unknownReference?]

/-- No two groups of a list have classes with the same name. -/
theorem classCollisionAfter?_eq_none_iff {seen groups : List ScaleGroup} :
    classCollisionAfter? seen groups = none ↔
      (groups.map ScaleGroup.className).Nodup ∧
        ∀ group ∈ groups, ∀ first ∈ seen, first.className ≠ group.className := by
  induction groups generalizing seen with
  | nil => simp [classCollisionAfter?]
  | cons group groups ih =>
    rw [classCollisionAfter?, List.map_cons, List.nodup_cons, List.forall_mem_cons]
    split
    · next first hfound =>
      have hsame : first.className = group.className := by simpa using List.find?_some hfound
      refine iff_of_false (by simp) fun h => ?_
      exact h.2.1 first (List.mem_of_find?_eq_some hfound) hsame
    · next hnone =>
      have hnew : ∀ first ∈ seen, first.className ≠ group.className := by
        simpa [List.find?_eq_none] using hnone
      rw [ih]
      simp only [List.forall_mem_cons, List.mem_map, not_exists, not_and]
      constructor
      · rintro ⟨hnodup, hall⟩
        exact ⟨⟨fun other hother hsame => (hall other hother).1 hsame.symm, hnodup⟩, hnew,
          fun other hother => (hall other hother).2⟩
      · rintro ⟨⟨hother, hnodup⟩, -, hall⟩
        refine ⟨hnodup, fun other hmem => ⟨fun hsame => ?_, hall other hmem⟩⟩
        exact hother other hmem hsame.symm

theorem classCollision?_eq_none_iff {groups : Table ScaleGroup} :
    classCollision? groups = none ↔ (groups.values.map ScaleGroup.className).Nodup := by
  rw [classCollision?, classCollisionAfter?_eq_none_iff]
  simp

theorem Catalog.build_eq_ok_iff {scales : ScaleDocument} {sensors : SensorDocument}
    {rules : NameRules} {catalog : Catalog} :
    Catalog.build scales sensors rules = .ok catalog ↔
      ∃ groups draft,
        scales.entries.foldlM (fun groups e => addShared groups e.1 e.2) ∅ = .ok groups ∧
        sensors.entries.foldlM (fun draft e => Draft.addSensor rules draft e.1 e.2)
          { groups : Draft } = .ok draft ∧
        draft.unknownReference? = none ∧ classCollision? draft.groups = none ∧
        catalog = ⟨draft.groups, draft.sensors⟩ := by
  simp only [Catalog.build, bind_eq_ok_iff]
  refine exists_congr fun groups => ?_
  rw [← exists_and_left]
  refine exists_congr fun draft => and_congr_right fun _ => and_congr_right fun _ => ?_
  cases draft.unknownReference? with
  | some r => simp
  | none =>
    cases classCollision? draft.groups with
    | some pair => simp
    | none => simp [eq_comm]

end SensorCatalog
