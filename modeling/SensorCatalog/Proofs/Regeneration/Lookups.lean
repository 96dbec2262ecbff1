import SensorCatalog.Proofs.Regeneration.File

/-!
# Lookups that never miss

Twice a key is looked up that must be there. When the references of the sensor types are resolved,
each one leads to its sensor type first and from there to the group; and when the map from sensor
types to scale classes is written, each sensor type leads to its group. The first lookup finds what
was put into the draft together with the reference. The second one finds what the references were
resolved for, or what was added together with the sensor type. So neither of them can miss, and a
text is made of any documents unless one of the documents, the catalogue or the file is at fault.

## Main definitions

* `Draft.resolve`, `Catalog.buildByLookup`: making a catalogue, with the lookup of sensor types.

## Main results

* `Draft.Extends.exists_find?_sensor`: the sensor type of a reference.
* `Catalog.buildByLookup_eq`: the lookup of sensor types makes no difference.
* `Regeneration.renderFile_eq_ok_or_fault`: what can come of a text.
-/

namespace SensorCatalog

open Fallible

/-! ### Resolving references -/

/-- Why a catalogue is not made when the sensor types of references are looked up. -/
inductive Stop where
  /-- The sensor type with a token is not there. -/
  | missing (sensor : String)
  /-- The documents are refused. -/
  | refused (refusal : Refusal)
  deriving DecidableEq

/-- Checks references, each by way of the sensor type that has it: the group that the sensor type
names must be there. -/
def Draft.resolve (draft : Draft) : List Reference → Except Stop Unit
  | [] => .ok ()
  | r :: rs =>
    match draft.sensors.find? r.sensor with
    | none => .error (.missing r.sensor)
    | some sensor =>
      if draft.groups.contains sensor.group then draft.resolve rs
      else .error (.refused (.unknownGroup r.sensor r.text))

/-- The catalogue of two documents, where the sensor types of references are looked up. -/
def Catalog.buildByLookup (scales : ScaleDocument) (sensors : SensorDocument) (rules : NameRules) :
    Except Stop Catalog := do
  let groups ← (scales.entries.foldlM (fun groups e => addShared groups e.1 e.2) ∅).mapError
    Stop.refused
  let draft ← (sensors.entries.foldlM (fun draft e => Draft.addSensor rules draft e.1 e.2)
    { groups : Draft }).mapError Stop.refused
  draft.resolve draft.references.reverse
  match classCollision? draft.groups with
  | some (first, second) =>
    .error (.refused (.collision .scaleGroups second.className first.origin second.origin))
  | none => .ok ⟨draft.groups, draft.sensors⟩

namespace Draft

variable {rules : NameRules} {ds : List (String × SensorDefinition)} {groups : Table ScaleGroup}
  {draft : Draft}

/-- **The sensor type of a reference** is there, and it names the group that the reference means. -/
theorem Extends.exists_find?_sensor (h : Extends rules ds { groups } draft) {r : Reference}
    (hr : r ∈ draft.references) :
    ∃ sensor, draft.sensors.find? r.sensor = some sensor ∧
      sensor.group = referencedGroup r.text := by
  obtain ⟨d, hd, id, hid, htoken, hsource⟩ := h.exists_of_mem_references hr
  obtain ⟨e, he, hsensor⟩ := (Table.adds_empty_iff.1 h.sensors).exists_right_of_mem hd
  obtain rfl : id = e.2.id := Option.some.inj (hid.symm.trans hsensor.id)
  have hgroup := hsensor.group
  rw [hsource] at hgroup
  refine ⟨e.2, Table.find?_eq_some_iff.2 ?_, hgroup⟩
  rwa [← htoken, ← hsensor.token]

/-- Checking references by way of their sensor types, where these are there, is looking for one that
means no group. -/
theorem resolve_eq {rs : List Reference}
    (h : ∀ r ∈ rs, ∃ sensor, draft.sensors.find? r.sensor = some sensor ∧
      sensor.group = referencedGroup r.text) :
    draft.resolve rs =
      match rs.find? fun r => !draft.groups.contains (referencedGroup r.text) with
      | some r => .error (.refused (.unknownGroup r.sensor r.text))
      | none => .ok () := by
  induction rs with
  | nil => rfl
  | cons r rs ih =>
    obtain ⟨⟨sensor, hsensor, hgroup⟩, hrs⟩ := List.forall_mem_cons.1 h
    simp only [resolve, hsensor, hgroup, List.find?_cons]
    cases hcontains : draft.groups.contains (referencedGroup r.text) with
    | true => exact ih hrs
    | false => rfl

theorem Extends.resolve_references_eq (h : Extends rules ds { groups } draft) :
    draft.resolve draft.references.reverse =
      match draft.unknownReference? with
      | some r => .error (.refused (.unknownGroup r.sensor r.text))
      | none => .ok () :=
  resolve_eq fun _ hr => h.exists_find?_sensor (List.mem_reverse.1 hr)

end Draft

namespace Catalog

/-- **The lookup of sensor types makes no difference**: the catalogue is made, or the documents are
refused, just as it is without. -/
theorem buildByLookup_eq (scales : ScaleDocument) (sensors : SensorDocument) (rules : NameRules) :
    buildByLookup scales sensors rules = (build scales sensors rules).mapError .refused := by
  rw [buildByLookup, build]
  cases scales.entries.foldlM (fun groups e => addShared groups e.1 e.2) ∅ with
  | error refusal => rfl
  | ok groups =>
    cases hdraft : sensors.entries.foldlM (fun draft e => Draft.addSensor rules draft e.1 e.2)
        { groups : Draft } with
    | error refusal =>
      simp [bind, Except.bind, Except.mapError, hdraft]
    | ok draft =>
      -- the references are those of the sensor types of this very draft
      have hresolve := (Draft.foldlM_addSensor_eq_ok_iff.1 hdraft).resolve_references_eq
      simp only [bind, Except.bind, Except.mapError, hdraft, hresolve]
      cases draft.unknownReference? with
      | some r => rfl
      | none =>
        cases classCollision? draft.groups with
        | some pair => rfl
        | none => rfl

end Catalog

/-! ### The text of the file -/

namespace Regeneration

open ConstantsFile

/-- The catalogue of two documents is made, or one of them cannot be read, or they are refused. -/
theorem catalog_eq_ok_or_fault (documents : Documents) (settings : Settings) :
    (∃ catalog, Regeneration.catalog documents settings = .ok catalog) ∨
      (∃ document e, Regeneration.catalog documents settings = .error (.parse document e)) ∨
      ∃ refusal, Regeneration.catalog documents settings = .error (.build refusal) := by
  rw [Regeneration.catalog]
  cases SensorDocument.parse documents.sensorTypes with
  | error e => exact .inr (.inl ⟨_, e, rfl⟩)
  | ok sensors =>
    cases ScaleDocument.parse documents.scales with
    | error e => exact .inr (.inl ⟨_, e, rfl⟩)
    | ok scales =>
      cases hbuild : Catalog.build scales sensors ⟨settings.keepingIds⟩ with
      | error refusal =>
        refine .inr (.inr ⟨refusal, ?_⟩)
        simp [bind, Except.bind, Except.mapError, hbuild]
      | ok catalog =>
        refine .inl ⟨catalog, ?_⟩
        simp [bind, Except.bind, Except.mapError, hbuild]

theorem renderFile_eq_error {documents : Documents} {settings : Settings} {failure : Failure}
    (h : Regeneration.catalog documents settings = .error failure) (previous : String) :
    renderFile documents previous settings = .error failure := by
  rw [renderFile, h]
  rfl

/-- **What can come of a text.** Of any documents and any old text there comes a new text, unless a
document cannot be read, the documents are refused, or the old text has no end marker. No lookup
misses on the way: not that of the sensor type of a reference, which makes no difference to the
catalogue, and not that of the group of a sensor type. -/
theorem renderFile_eq_ok_or_fault (documents : Documents) (previous : String)
    (settings : Settings) :
    ((∃ text, renderFile documents previous settings = .ok text) ∨
      (∃ document e, renderFile documents previous settings = .error (.parse document e)) ∨
      (∃ refusal, renderFile documents previous settings = .error (.build refusal)) ∨
      renderFile documents previous settings = .error .missingMarker) ∧
    ∀ scales sensors rules,
      Catalog.buildByLookup scales sensors rules =
        (Catalog.build scales sensors rules).mapError .refused ∧
      ∀ catalog, Catalog.build scales sensors rules = .ok catalog →
        ∀ e ∈ catalog.sensors.entries, ∃ group, catalog.groups.find? e.2.group = some group := by
  refine ⟨?_, fun scales sensors rules =>
    ⟨Catalog.buildByLookup_eq scales sensors rules, fun catalog hbuild e he => ?_⟩⟩
  · rcases catalog_eq_ok_or_fault documents settings with
      ⟨catalog, hcatalog⟩ | ⟨document, e, hparse⟩ | ⟨refusal, hrefusal⟩
    · obtain ⟨body, hgenerated, -⟩ := exists_generatedPart_eq (catalog_eq_ok_iff.1 hcatalog)
      cases hsplice : splice? (body ++ endBlock) previous with
      | some lines =>
        refine .inl ⟨text lines, ?_⟩
        simp [renderFile, bind, Except.bind, pure, Except.pure, hcatalog, hgenerated, hsplice]
      | none =>
        refine .inr (.inr (.inr ?_))
        simp [renderFile, bind, Except.bind, hcatalog, hgenerated, hsplice]
    · exact .inr (.inl ⟨document, e, renderFile_eq_error hparse previous⟩)
    · exact .inr (.inr (.inl ⟨refusal, renderFile_eq_error hrefusal previous⟩))
  · obtain ⟨group, hgroup, -⟩ := Catalog.exists_group hbuild he
    exact ⟨group, Table.find?_eq_some_iff.2 hgroup⟩

/-- A document where a sensor type refers to the own group of a later one. -/
def laterGroupSensors : SensorDocument :=
  Table.ofList [("0x01", ⟨"First", .shared "$SCALES:Later"⟩), ("0x02", ⟨"Later", .own ∅⟩)]

/-- The reference leads to the later group. -/
theorem exists_buildByLookup_laterGroup :
    ∃ catalog, Catalog.buildByLookup ∅ laterGroupSensors ⟨[]⟩ = .ok catalog ∧
      catalog.sensors.keys = ["FIRST", "LATER"] ∧
      ∀ e ∈ catalog.sensors.entries, ∃ group, catalog.groups.find? e.2.group = some group := by
  obtain ⟨catalog, hbuild, hkeys⟩ := exists_eq_ok_of_any
    (x := Catalog.build ∅ laterGroupSensors ⟨[]⟩)
    (p := fun catalog => catalog.sensors.keys = ["FIRST", "LATER"]) (by decide +kernel)
  obtain ⟨hlookup, hgroups⟩ :=
    (renderFile_eq_ok_or_fault emptyDocuments "" {}).2 ∅ laterGroupSensors ⟨[]⟩
  rw [hbuild] at hlookup
  exact ⟨catalog, hlookup, of_decide_eq_true hkeys, hgroups catalog hbuild⟩

end Regeneration

end SensorCatalog
