import SensorCatalog.Regeneration.File
import SensorCatalog.Proofs.Document.Written

/-!
# The order of members

The members of an object may be written in any order, at every level of a document. A description
of a document stays one when its members are put in another order, and a document is read from
every text that holds a description of it; so the constants file does not depend on the order.

## Main definitions

* `Json.Reordered`: a value with the members of its objects in another order.
* `Regeneration.Documents.Hold`: two documents hold two values.

## Main results

* `SensorDocument.IsDescribedBy.reordered`, `ScaleDocument.IsDescribedBy.reordered`: a description
  in another order.
* `Regeneration.renderFile_eq_of_reordered`: documents whose members are in another order give the
  same constants file.
-/

namespace SensorCatalog

open Json

namespace Json

/-! ### Values in another order -/

/-- Each member of one object has a partner of its own in the other, under the same key and with a
value that is related to its own. -/
inductive ReorderedMembers (R : Value → Value → Prop) :
    List (String × Value) → List (String × Value) → Prop
  | nil : ReorderedMembers R [] []
  | cons {key : String} {v v' : Value} {ms ms' all : List (String × Value)} (h : R v v')
      (hrest : ReorderedMembers R ms ms') (hall : all.Perm ((key, v') :: ms')) :
    ReorderedMembers R ((key, v) :: ms) all

/-- The members of the objects of a value are put in another order, at every level. -/
inductive Reordered : Value → Value → Prop
  | scalar (s : Scalar) : Reordered (.scalar s) (.scalar s)
  | list {vs vs' : List Value} (h : List.Forall₂ Reordered vs vs') :
    Reordered (.list vs) (.list vs')
  | object {ms ms' : List (String × Value)} (h : ReorderedMembers Reordered ms ms') :
    Reordered (.object ms) (.object ms')

theorem Reordered.singleton {key : String} {v v' : Value} (h : Reordered v v') :
    Reordered (.object [(key, v)]) (.object [(key, v')]) :=
  .object (.cons h .nil (.refl _))

theorem Reordered.swap {key key' : String} (s s' : Scalar) :
    Reordered (.object [(key, .scalar s), (key', .scalar s')])
      (.object [(key', .scalar s'), (key, .scalar s)]) :=
  .object (.cons (.scalar s) (.cons (.scalar s') .nil (.refl _)) (.swap _ _ _))

theorem ReorderedMembers.oneToOne {R : Value → Value → Prop} {ms ms' : List (String × Value)}
    (h : ReorderedMembers R ms ms') :
    OneToOne (fun m m' => m'.1 = m.1 ∧ R m.2 m'.2) ms ms' := by
  induction h with
  | nil => exact OneToOne.nil_left_iff.2 rfl
  | @cons key _ v' _ ms' _ h _ hall ih =>
    exact OneToOne.cons_left_iff.2 ⟨(key, v'), ms', ⟨rfl, h⟩, ih, hall⟩

/-- Members without parts are only put in another order. -/
theorem ReorderedMembers.perm {ms ms' : List (String × Value)}
    (h : ReorderedMembers Reordered ms ms')
    (hms : ∀ m ∈ ms, ∃ s, m.2 = .scalar s) : ms'.Perm ms := by
  induction h with
  | nil => exact .refl _
  | cons h _ hall ih =>
    obtain ⟨⟨s, rfl⟩, hrest⟩ := List.forall_mem_cons.1 hms
    cases h
    exact hall.trans ((ih hrest).cons _)

end Json

/-! ### Descriptions in another order -/

theorem Table.IsDescribedBy.reordered {α : Type} {R : α → Value → Prop} {t : Table α}
    {v v' : Value} (h : t.IsDescribedBy R v) (hv : Reordered v v')
    (hR : ∀ {a v v'}, R a v → Reordered v v' → R a v') : t.IsDescribedBy R v' := by
  obtain ⟨h⟩ := h
  cases hv with
  | object hms =>
    exact .object (h.trans hms.oneToOne fun hm hm' => ⟨hm'.1.trans hm.1, hR hm.2 hm'.2⟩)

theorem ScaleDefinition.IsDescribedBy.reordered {d : ScaleDefinition} {v v' : Value}
    (h : d.IsDescribedBy v) (hv : Reordered v v') : d.IsDescribedBy v' := by
  cases hv with
  | scalar => cases h
  | list => cases h
  | object hms =>
    have hperm := hms.perm fun m hm => (exists_isOptionalText h m hm).elim fun _ ho =>
      ho.exists_eq_scalar
    obtain ⟨hunit, hdescription, h⟩ := h
    exact .object hunit hdescription (hperm.trans h)

theorem ScaleDefinitions.IsDescribedBy.reordered {scales : ScaleDefinitions} {v v' : Value}
    (h : ScaleDefinitions.IsDescribedBy scales v) (hv : Reordered v v') :
    ScaleDefinitions.IsDescribedBy scales v' :=
  Table.IsDescribedBy.reordered h hv ScaleDefinition.IsDescribedBy.reordered

theorem ScaleSource.IsDescribedBy.reordered {source : ScaleSource} {v v' : Value}
    (h : source.IsDescribedBy v) (hv : Reordered v v') : source.IsDescribedBy v' := by
  cases h with
  | shared reference =>
    cases hv
    exact .shared reference
  | own h => exact .own (h.reordered hv)

theorem SensorDefinition.IsDescribedBy.reordered {d : SensorDefinition} {v v' : Value}
    (h : d.IsDescribedBy v) (hv : Reordered v v') : d.IsDescribedBy v' := by
  obtain ⟨hscales, h⟩ := h
  cases hv with
  | object hms =>
    obtain ⟨⟨_, _⟩, ms, ⟨rfl, hlabel⟩, hms, hperm⟩ :=
      OneToOne.cons_left_iff.1 (hms.oneToOne.perm_left h.symm)
    obtain ⟨⟨_, _⟩, _, ⟨rfl, hv⟩, hms, hperm'⟩ := OneToOne.cons_left_iff.1 hms
    obtain rfl := OneToOne.nil_left_iff.1 hms
    cases hlabel
    exact .object (hscales.reordered hv) (hperm.trans (hperm'.cons _))

/-- A description of shared groups in another order is one of the same groups. -/
theorem ScaleDocument.IsDescribedBy.reordered {groups : ScaleDocument} {v v' : Value}
    (h : ScaleDocument.IsDescribedBy groups v) (hv : Reordered v v') :
    ScaleDocument.IsDescribedBy groups v' :=
  Table.IsDescribedBy.reordered h hv ScaleDefinitions.IsDescribedBy.reordered

/-- A description of sensor types in another order is one of the same sensor types. -/
theorem SensorDocument.IsDescribedBy.reordered {sensors : SensorDocument} {v v' : Value}
    (h : SensorDocument.IsDescribedBy sensors v) (hv : Reordered v v') :
    SensorDocument.IsDescribedBy sensors v' :=
  Table.IsDescribedBy.reordered h hv SensorDefinition.IsDescribedBy.reordered

namespace Regeneration

/-! ### The constants file -/

/-- The texts of two documents hold two values. -/
structure Documents.Hold (documents : Documents) (sensors scales : Value) : Prop where
  sensorTypes : WritesDocument sensors documents.sensorTypes
  scales : WritesDocument scales documents.scales

theorem renderFile_eq_of_parse_eq {documents documents' : Documents}
    (hsensors : SensorDocument.parse documents.sensorTypes =
      SensorDocument.parse documents'.sensorTypes)
    (hscales : ScaleDocument.parse documents.scales = ScaleDocument.parse documents'.scales)
    (previous : String) (settings : Settings) :
    renderFile documents previous settings = renderFile documents' previous settings := by
  rw [renderFile, renderFile, catalog, catalog, hsensors, hscales]

/-- **The order of members does not matter.** Texts that hold descriptions of sensor types and of
shared groups are read as these, and so are texts that hold them with their members in another
order. So both give the same constants file, or fail in the same way. Descriptions are the objects
in which no key is repeated, by `Table.exists_isDescribedBy_iff`. -/
theorem renderFile_eq_of_reordered {documents documents' : Documents}
    {sensorTypes : SensorDocument} {groups : ScaleDocument}
    {sensors sensors' scales scales' : Value}
    (hsensors : SensorDocument.IsDescribedBy sensorTypes sensors)
    (hscales : ScaleDocument.IsDescribedBy groups scales)
    (hsensors' : Reordered sensors sensors') (hscales' : Reordered scales scales')
    (h : documents.Hold sensors scales) (h' : documents'.Hold sensors' scales') :
    SensorDocument.parse documents.sensorTypes = .ok sensorTypes ∧
      SensorDocument.parse documents'.sensorTypes = .ok sensorTypes ∧
      ScaleDocument.parse documents.scales = .ok groups ∧
      ScaleDocument.parse documents'.scales = .ok groups ∧
      ∀ previous settings,
        renderFile documents previous settings = renderFile documents' previous settings := by
  have hparse := SensorDocument.parse_eq_ok hsensors h.sensorTypes
  have hparse' := SensorDocument.parse_eq_ok (hsensors.reordered hsensors') h'.sensorTypes
  have hgroups := ScaleDocument.parse_eq_ok hscales h.scales
  have hgroups' := ScaleDocument.parse_eq_ok (hscales.reordered hscales') h'.scales
  exact ⟨hparse, hparse', hgroups, hgroups', renderFile_eq_of_parse_eq (hparse.trans hparse'.symm)
    (hgroups.trans hgroups'.symm)⟩

/-- A sensor type with a shared scale. -/
def airDocuments : Documents :=
  ⟨"\x7b\"1\":\x7b\"label\":\"Air\",\"scales\":\"heat\"\x7d\x7d",
    "\x7b\"heat\":\x7b\"2\":\x7b\"label\":\"Celsius\",\"unit\":\"°C\"\x7d\x7d\x7d"⟩

/-- The same, but the members of the sensor type and of the scale have changed places, and a
character is escaped. -/
def swappedDocuments : Documents :=
  ⟨"\x7b\"1\":\x7b\"scales\":\"heat\",\"label\":\"Air\"\x7d\x7d",
    "\x7b\"heat\":\x7b\"2\":\x7b\"unit\":\"\\u00B0C\",\"label\":\"Celsius\"\x7d\x7d\x7d"⟩

/-- Both are read as the same documents. -/
theorem renderFile_eq_of_reordered_swapped :
    SensorDocument.parse airDocuments.sensorTypes =
        .ok (.ofList [("1", ⟨"Air", .shared "heat"⟩)]) ∧
      SensorDocument.parse swappedDocuments.sensorTypes =
        .ok (.ofList [("1", ⟨"Air", .shared "heat"⟩)]) ∧
      ScaleDocument.parse airDocuments.scales =
        .ok (.ofList [("heat", .ofList [("2", ⟨"Celsius", some "°C", none⟩)])]) ∧
      ScaleDocument.parse swappedDocuments.scales =
        .ok (.ofList [("heat", .ofList [("2", ⟨"Celsius", some "°C", none⟩)])]) ∧
      ∀ previous settings,
        renderFile airDocuments previous settings =
          renderFile swappedDocuments previous settings := by
  have hone : SpellsText "1" _ := spellsText_plain rfl
  have htwo : SpellsText "2" _ := spellsText_plain rfl
  have hlabel : SpellsText "label" _ := spellsText_plain rfl
  have hscales : SpellsText "scales" _ := spellsText_plain rfl
  have hunit : SpellsText "unit" _ := spellsText_plain rfl
  have hheat : SpellsText "heat" _ := spellsText_plain rfl
  have hair : SpellsText "Air" _ := spellsText_plain rfl
  have hcelsius : SpellsText "Celsius" _ := spellsText_plain rfl
  have hdegree : SpellsText "°C" _ := spellsText_plain rfl
  have hescaped : SpellsText "°C" _ :=
    spellsText_ofList (.cons (.numbered (@SpellsUnit.digits _ '0' '0' 'B' '0' rfl))
      (.cons (.plain rfl) .nil))
  have hsensors : SensorDocument.IsDescribedBy (.ofList [("1", ⟨"Air", .shared "heat"⟩)])
      (.object [("1", .object [("label", .scalar (.text "Air")),
        ("scales", .scalar (.text "heat"))])]) :=
    Table.isDescribedBy_singleton (.object (.shared _) (.refl _))
  have hgroups : ScaleDocument.IsDescribedBy
      (.ofList [("heat", .ofList [("2", ⟨"Celsius", some "°C", none⟩)])])
      (.object [("heat", .object [("2", .object [("label", .scalar (.text "Celsius")),
        ("unit", .scalar (.text "°C"))])])]) :=
    Table.isDescribedBy_singleton (Table.isDescribedBy_singleton
      (.object (.given (.text _)) .absent (.refl _)))
  have hwritten {v : Value} {cs : List Char} (h : Writes v cs) :
      WritesDocument v (String.ofList (cs ++ [])) := ⟨cs, [], h, isBlanks_nil, rfl⟩
  have htext {s : String} {cs : List Char} (h : SpellsText s cs) : Writes (.scalar (.text s)) _ :=
    .text isBlanks_nil h
  exact renderFile_eq_of_reordered hsensors hgroups (.singleton (.swap _ _))
    (.singleton (.singleton (.swap _ _)))
    ⟨hwritten (.singleton hone (.pair hlabel (htext hair) hscales (htext hheat))),
      hwritten (.singleton hheat (.singleton htwo
        (.pair hlabel (htext hcelsius) hunit (htext hdegree))))⟩
    ⟨hwritten (.singleton hone (.pair hscales (htext hheat) hlabel (htext hair))),
      hwritten (.singleton hheat (.singleton htwo
        (.pair hunit (htext hescaped) hlabel (htext hcelsius))))⟩

end Regeneration

end SensorCatalog
