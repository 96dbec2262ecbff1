import SensorCatalog.Document.Reading
import SensorCatalog.Proofs.Json.Written
import SensorCatalog.Proofs.OneToOne
import SensorCatalog.Proofs.Table

/-!
# Documents as they are written

Which JSON values describe a document is told without a word about order: an object describes a
table if it has a member for each entry and no other, and a record if it has the members of the
record and no other. A document is read from every text that such a value is written as.

## Main definitions

* `ScaleDefinition.IsDescribedBy`, `ScaleSource.IsDescribedBy`, `SensorDefinition.IsDescribedBy`:
  the values that describe an entry.
* `ScaleDocument.IsDescribedBy`, `SensorDocument.IsDescribedBy`: those that describe a document.

## Main results

* `ScaleDocument.parse_eq_ok`, `SensorDocument.parse_eq_ok`: a document is read from a text that
  holds a description of it.
* `Table.exists_isDescribedBy_iff`: an object in which no key is repeated describes a table.
* `ScaleDocument.IsDescribedBy.exists_writesDocument`,
  `SensorDocument.IsDescribedBy.exists_writesDocument`: every description can be written.
-/

namespace SensorCatalog

open Json

/-! ### Tables -/

section

variable {α : Type} {R : α → Value → Prop}

/-- An object has a member for each entry of a table, and no other. -/
inductive Table.IsDescribedBy (R : α → Value → Prop) (t : Table α) : Value → Prop
  | object {ms : List (String × Value)}
      (h : OneToOne (fun e m => m.1 = e.1 ∧ R e.2 m.2) t.entries ms) :
    IsDescribedBy R t (.object ms)

theorem Table.IsDescribedBy.exists_eq_object {t : Table α} {v : Value} (h : t.IsDescribedBy R v) :
    ∃ ms, v = .object ms := by
  obtain ⟨⟩ := h
  exact ⟨_, rfl⟩

/-- **An object describes a table** exactly if no key is repeated and each value describes an
entry. -/
theorem Table.exists_isDescribedBy_iff {ms : List (String × Value)} :
    (∃ t : Table α, t.IsDescribedBy R (.object ms)) ↔
      (ms.map Prod.fst).Nodup ∧ ∀ m ∈ ms, ∃ a, R a m.2 := by
  constructor
  · rintro ⟨t, ⟨h⟩⟩
    refine ⟨(h.map_perm fun hm => hm.1).nodup_iff.2 t.nodup_keys, fun m hm => ?_⟩
    obtain ⟨e, -, -, he⟩ := h.exists_left_of_mem hm
    exact ⟨e.2, he⟩
  · rintro ⟨hkeys, h⟩
    obtain ⟨es, hes⟩ : ∃ es, OneToOne (fun m (e : String × α) => m.1 = e.1 ∧ R e.2 m.2) ms es :=
      OneToOne.exists_of_forall fun m hm => (h m hm).imp' (Prod.mk m.1) fun a ha => ⟨rfl, ha⟩
    have hnodup : (es.map Prod.fst).Nodup :=
      (hes.map_perm fun hme => hme.1.symm).nodup_iff.2 hkeys
    obtain ⟨t, ht⟩ := Table.exists_entries_perm_iff.2 hnodup
    exact ⟨t, .object (hes.symm.perm_left ht)⟩

theorem Table.isDescribedBy_singleton {key : String} {a : α} {v : Value} (h : R a v) :
    (Table.ofList [(key, a)]).IsDescribedBy R (.object [(key, v)]) :=
  .object (OneToOne.cons_left_iff.2 ⟨_, _, ⟨rfl, h⟩, OneToOne.nil_left_iff.2 rfl, .refl _⟩)

theorem Table.IsDescribedBy.exists_writes {t : Table α} {v : Value} (h : t.IsDescribedBy R v)
    (hR : ∀ {a v}, R a v → ∃ text, Writes v text) : ∃ text, Writes v text := by
  obtain ⟨h⟩ := h
  refine exists_writes_object fun m hm => ?_
  obtain ⟨e, -, -, he⟩ := h.exists_left_of_mem hm
  exact hR he

/-- A member binds its key. -/
inductive Table.Binds (R : α → Value → Prop) (t : Table α) : String × Value → Table α → Prop
  | insert {m : String × Value} {a : α} (h : R a m.2) : Binds R t m (t.insert m.1 a)

/-- The members of a description bind the keys of a table, one after the other. -/
theorem Table.IsDescribedBy.carries {t : Table α} {ms : List (String × Value)}
    (h : t.IsDescribedBy R (.object ms)) : Carries (Table.Binds R) ∅ ms t := by
  obtain ⟨h⟩ := h
  obtain ⟨es, hes, hperm⟩ := h.symm
  rw [← Table.ofList_eq_of_entries_perm hperm]
  -- the members that are left are bound in what the earlier ones have made
  suffices ∀ t : Table α, Carries (Table.Binds R) t ms (es.foldl (fun t e => t.insert e.1 e.2) t)
    from this ∅
  clear h hperm
  induction hes with
  | nil => exact .nil
  | @cons m e ms es hm _ ih =>
    intro t
    rw [List.foldl_cons, ← hm.1]
    exact .cons (.insert hm.2) (ih _)

theorem Table.IsDescribedBy.readsValue {r : Reader α} {t : Table α} {v : Value}
    (h : t.IsDescribedBy R v) (hr : ∀ {a v}, R a v → ReadsValue r v a) :
    ReadsValue (table r) v t := by
  obtain ⟨ms, rfl⟩ := h.exists_eq_object
  refine readsValue_table (h.carries.imp ?_)
  rintro t m _ ⟨ha⟩
  exact ⟨_, hr ha, rfl⟩

end

/-! ### Scales -/

/-- A text stands for itself, and a null for the absence of one. -/
inductive IsOptionalText : Option String → Value → Prop
  | text (s : String) : IsOptionalText (some s) (.scalar (.text s))
  | null : IsOptionalText none (.scalar .null)

/-- An optional text is given by a member with a key, or left out if it is absent. -/
inductive IsOptionalMember (key : String) : Option String → List (String × Value) → Prop
  | given {o : Option String} {v : Value} (h : IsOptionalText o v) :
    IsOptionalMember key o [(key, v)]
  | absent : IsOptionalMember key none []

theorem IsOptionalText.readsValue {o : Option String} {v : Value} (h : IsOptionalText o v) :
    ReadsValue optionalText v o := by
  cases h with
  | text s => exact readsValue_optionalText_text s
  | null => exact readsValue_optionalText_null

theorem IsOptionalMember.exists_isOptionalText {key : String} {o : Option String}
    {ms : List (String × Value)} (h : IsOptionalMember key o ms) :
    ∀ m ∈ ms, ∃ o, IsOptionalText o m.2 := by
  cases h with
  | given h => exact List.forall_mem_singleton.2 ⟨o, h⟩
  | absent => exact List.forall_mem_nil _

theorem IsOptionalText.exists_eq_scalar {o : Option String} {v : Value} (h : IsOptionalText o v) :
    ∃ s, v = .scalar s := by
  cases h <;> exact ⟨_, rfl⟩

theorem IsOptionalText.exists_writes {o : Option String} {v : Value} (h : IsOptionalText o v) :
    ∃ text, Writes v text := by
  cases h with
  | text s => exact exists_writes_text s
  | null => exact ⟨_, .null isBlanks_nil⟩

namespace ScaleDefinition

/-- An object has the members of a scale, in any order, and no other. -/
inductive IsDescribedBy (d : ScaleDefinition) : Value → Prop
  | object {ms unit description : List (String × Value)}
      (hunit : IsOptionalMember "unit" d.unit unit)
      (hdescription : IsOptionalMember "description" d.description description)
      (h : ms.Perm (("label", .scalar (.text d.label)) :: (unit ++ description))) :
    IsDescribedBy d (.object ms)

theorem IsDescribedBy.exists_eq_object {d : ScaleDefinition} {v : Value} (h : d.IsDescribedBy v) :
    ∃ ms, v = .object ms := by
  obtain ⟨⟩ := h
  exact ⟨_, rfl⟩

/-- A member gives a field of a scale that has not been given before. -/
inductive Given.Takes (given : Given) : String × Value → Given → Prop
  | label {s : String} (h : given.label = none) :
    Takes given ("label", .scalar (.text s)) { given with label := some s }
  | unit {o : Option String} {v : Value} (h : given.unit = none) (hv : IsOptionalText o v) :
    Takes given ("unit", v) { given with unit := some o }
  | description {o : Option String} {v : Value} (h : given.description = none)
      (hv : IsOptionalText o v) :
    Takes given ("description", v) { given with description := some o }

/-- Fields may be given in any order. -/
theorem Given.Takes.swap {given given₁ given₂ : Given} {m m' : String × Value}
    (h : given.Takes m given₁) (h' : given₁.Takes m' given₂) :
    ∃ given₁', given.Takes m' given₁' ∧ given₁'.Takes m given₂ := by
  cases h with
  | label h =>
    cases h' with
    | label h' => cases h'
    | unit h' hv' => exact ⟨_, .unit h' hv', .label h⟩
    | description h' hv' => exact ⟨_, .description h' hv', .label h⟩
  | unit h hv =>
    cases h' with
    | label h' => exact ⟨_, .label h', .unit h hv⟩
    | unit h' hv' => cases h'
    | description h' hv' => exact ⟨_, .description h' hv', .unit h hv⟩
  | description h hv =>
    cases h' with
    | label h' => exact ⟨_, .label h', .description h hv⟩
    | unit h' hv' => exact ⟨_, .unit h' hv', .description h hv⟩
    | description h' hv' => cases h'

/-- The members of a description give a scale its fields. -/
theorem exists_carries {d : ScaleDefinition} {ms : List (String × Value)}
    (h : d.IsDescribedBy (.object ms)) :
    ∃ given, Carries Given.Takes {} ms given ∧ given.finish = .ok d := by
  obtain ⟨hunit, hdescription, hms⟩ := h
  -- fields can be exchanged, so the order of their declaration will do
  suffices ∃ given, Carries Given.Takes {} _ given ∧ given.finish = .ok d from
    this.imp fun given hgiven => ⟨hgiven.1.perm Given.Takes.swap hms.symm, hgiven.2⟩
  obtain ⟨label, unit, description⟩ := d
  cases hunit with
  | given hu =>
    cases hdescription with
    | given hd =>
      exact ⟨_, .cons (.label rfl) (.cons (.unit rfl hu) (.cons (.description rfl hd) (.nil _))),
        rfl⟩
    | absent => exact ⟨_, .cons (.label rfl) (.cons (.unit rfl hu) (.nil _)), rfl⟩
  | absent =>
    cases hdescription with
    | given hd => exact ⟨_, .cons (.label rfl) (.cons (.description rfl hd) (.nil _)), rfl⟩
    | absent => exact ⟨_, .cons (.label rfl) (.nil _), rfl⟩

theorem Given.Takes.readsMember {given given' : Given} {m : String × Value}
    (h : given.Takes m given') : ReadsMember recordType.member given m given' := by
  cases h with
  | label h => exact readsMember_field rfl (by simp [h]) ((readsValue_text _).bind_pure rfl)
  | unit h hv => exact readsMember_field rfl (by simp [h]) (hv.readsValue.bind_pure rfl)
  | description h hv => exact readsMember_field rfl (by simp [h]) (hv.readsValue.bind_pure rfl)

theorem IsDescribedBy.readsValue {d : ScaleDefinition} {v : Value} (h : d.IsDescribedBy v) :
    ReadsValue reader v d := by
  obtain ⟨ms, rfl⟩ := h.exists_eq_object
  obtain ⟨given, hgiven, hfinish⟩ := exists_carries h
  exact readsValue_record (hgiven.imp Given.Takes.readsMember) hfinish

theorem Given.Takes.member?_eq {given given' : Given} {m : String × Value}
    (h : given.Takes m given') : given.member? m.1 m.2 = some given' := by
  cases h with
  | label h => simp [member?, h]
  | unit h hv => cases hv <;> simp [member?, h, optionalText?]
  | description h hv => cases hv <;> simp [member?, h, optionalText?]

theorem IsDescribedBy.ofValue?_eq {d : ScaleDefinition} {v : Value} (h : d.IsDescribedBy v) :
    ofValue? v = some d := by
  obtain ⟨ms, rfl⟩ := h.exists_eq_object
  obtain ⟨given, hgiven, hfinish⟩ := exists_carries h
  rw [ofValue?, hgiven.foldlM_eq Given.Takes.member?_eq, Option.bind_some, hfinish]
  rfl

/-- The members of a scale are optional texts. -/
theorem exists_isOptionalText {d : ScaleDefinition} {ms : List (String × Value)}
    (h : d.IsDescribedBy (.object ms)) : ∀ m ∈ ms, ∃ o, IsOptionalText o m.2 := by
  obtain ⟨hunit, hdescription, hms⟩ := h
  simp only [hms.mem_iff]
  refine List.forall_mem_cons.2 ⟨⟨_, .text d.label⟩, List.forall_mem_append.2 ⟨?_, ?_⟩⟩
  · exact hunit.exists_isOptionalText
  · exact hdescription.exists_isOptionalText

theorem IsDescribedBy.exists_writes {d : ScaleDefinition} {v : Value} (h : d.IsDescribedBy v) :
    ∃ text, Writes v text := by
  obtain ⟨ms, rfl⟩ := h.exists_eq_object
  refine exists_writes_object fun m hm => ?_
  obtain ⟨o, ho⟩ := exists_isOptionalText h m hm
  exact ho.exists_writes

/-- Reading a scale takes one bracket. -/
theorem IsDescribedBy.readsValue_value {d : ScaleDefinition} {v : Value} (h : d.IsDescribedBy v)
    (room : Nat) : ReadsValue (value (room + 1)) v v := by
  obtain ⟨ms, rfl⟩ := h.exists_eq_object
  refine readsValue_value_object fun m hm => ?_
  obtain ⟨o, ho⟩ := exists_isOptionalText h m hm
  obtain ⟨s, hs⟩ := ho.exists_eq_scalar
  rw [hs]
  exact readsValue_value_scalar room s

end ScaleDefinition

/-- An object describes a group of scales. -/
def ScaleDefinitions.IsDescribedBy (scales : ScaleDefinitions) (v : Value) : Prop :=
  Table.IsDescribedBy ScaleDefinition.IsDescribedBy scales v

/-- An object describes a document of shared groups of scales. -/
def ScaleDocument.IsDescribedBy (groups : ScaleDocument) (v : Value) : Prop :=
  Table.IsDescribedBy ScaleDefinitions.IsDescribedBy groups v

theorem ScaleDefinitions.IsDescribedBy.readsValue {scales : ScaleDefinitions} {v : Value}
    (h : ScaleDefinitions.IsDescribedBy scales v) :
    ReadsValue ScaleDefinitions.reader v scales :=
  Table.IsDescribedBy.readsValue h ScaleDefinition.IsDescribedBy.readsValue

theorem ScaleDefinitions.IsDescribedBy.exists_writes {scales : ScaleDefinitions} {v : Value}
    (h : ScaleDefinitions.IsDescribedBy scales v) : ∃ text, Writes v text :=
  Table.IsDescribedBy.exists_writes h ScaleDefinition.IsDescribedBy.exists_writes

/-- A description of shared groups can be written. -/
theorem ScaleDocument.IsDescribedBy.exists_writesDocument {groups : ScaleDocument} {v : Value}
    (h : ScaleDocument.IsDescribedBy groups v) : ∃ text, WritesDocument v text :=
  Json.exists_writesDocument
    (Table.IsDescribedBy.exists_writes h ScaleDefinitions.IsDescribedBy.exists_writes)

/-- **The shared groups of scales are read** from any text that holds a description of them. -/
theorem ScaleDocument.parse_eq_ok {groups : ScaleDocument} {v : Value} {text : String}
    (h : ScaleDocument.IsDescribedBy groups v) (htext : WritesDocument v text) :
    ScaleDocument.parse text = .ok groups :=
  document_eq_ok (Table.IsDescribedBy.readsValue h ScaleDefinitions.IsDescribedBy.readsValue) htext

/-! ### Sensor types -/

namespace ScaleSource

/-- A text refers to a shared group, and an object describes a group of its own. -/
inductive IsDescribedBy : ScaleSource → Value → Prop
  | shared (reference : String) : IsDescribedBy (.shared reference) (.scalar (.text reference))
  | own {scales : ScaleDefinitions} {v : Value} (h : ScaleDefinitions.IsDescribedBy scales v) :
    IsDescribedBy (.own scales) v

theorem IsDescribedBy.ofValue?_eq {source : ScaleSource} {v : Value} (h : source.IsDescribedBy v) :
    ofValue? v = some source := by
  cases h with
  | shared reference => rfl
  | @own scales v h =>
    obtain ⟨ms, rfl⟩ := Table.IsDescribedBy.exists_eq_object h
    have hfold : ms.foldlM (fun (scales : ScaleDefinitions) m =>
        (ScaleDefinition.ofValue? m.2).map (scales.insert m.1)) ∅ = some scales := by
      refine h.carries.foldlM_eq ?_
      rintro scales m _ ⟨hm⟩
      rw [hm.ofValue?_eq]
      rfl
    rw [ofValue?, hfold]
    rfl

/-- Reading a source of scales takes two brackets. -/
theorem IsDescribedBy.readsValue_value {source : ScaleSource} {v : Value}
    (h : source.IsDescribedBy v) (room : Nat) : ReadsValue (value (room + 2)) v v := by
  cases h with
  | shared reference => exact readsValue_value_scalar _ _
  | own h =>
    obtain ⟨h⟩ := h
    refine readsValue_value_object fun m hm => ?_
    obtain ⟨e, -, -, he⟩ := h.exists_left_of_mem hm
    exact he.readsValue_value room

theorem IsDescribedBy.readsValue {source : ScaleSource} {v : Value} (h : source.IsDescribedBy v)
    (b : Bracket) : ReadsValue (reader b) v source :=
  -- four brackets are open at most: two around the source, and two in it
  (h.readsValue_value (nestingBound - 4)).bind_pure (by rw [h.ofValue?_eq])

theorem IsDescribedBy.exists_writes {source : ScaleSource} {v : Value}
    (h : source.IsDescribedBy v) : ∃ text, Writes v text := by
  cases h with
  | shared reference => exact exists_writes_text reference
  | own h => exact h.exists_writes

end ScaleSource

namespace SensorDefinition

/-- An object has the members of a sensor type, in any order, and no other. -/
inductive IsDescribedBy (d : SensorDefinition) : Value → Prop
  | object {ms : List (String × Value)} {scales : Value} (hscales : d.scales.IsDescribedBy scales)
      (h : ms.Perm [("label", .scalar (.text d.label)), ("scales", scales)]) :
    IsDescribedBy d (.object ms)

/-- A member gives a field of a sensor type that has not been given before. -/
inductive Given.Takes (given : Given) : String × Value → Given → Prop
  | label {s : String} (h : given.label = none) :
    Takes given ("label", .scalar (.text s)) { given with label := some s }
  | scales {source : ScaleSource} {v : Value} (h : given.scales = none)
      (hv : source.IsDescribedBy v) : Takes given ("scales", v) { given with scales := some source }

/-- Fields may be given in any order. -/
theorem Given.Takes.swap {given given₁ given₂ : Given} {m m' : String × Value}
    (h : given.Takes m given₁) (h' : given₁.Takes m' given₂) :
    ∃ given₁', given.Takes m' given₁' ∧ given₁'.Takes m given₂ := by
  cases h with
  | label h =>
    cases h' with
    | label h' => cases h'
    | scales h' hv' => exact ⟨_, .scales h' hv', .label h⟩
  | scales h hv =>
    cases h' with
    | label h' => exact ⟨_, .label h', .scales h hv⟩
    | scales h' hv' => cases h'

theorem Given.Takes.readsMember {given given' : Given} {m : String × Value}
    (h : given.Takes m given') : ReadsMember recordType.member given m given' := by
  cases h with
  | label h => exact readsMember_field rfl (by simp [h]) ((readsValue_text _).bind_pure rfl)
  | scales h hv => exact readsMember_field rfl (by simp [h]) ((hv.readsValue _).bind_pure rfl)

theorem IsDescribedBy.readsValue {d : SensorDefinition} {v : Value} (h : d.IsDescribedBy v) :
    ReadsValue reader v d := by
  obtain ⟨hscales, hms⟩ := h
  have hgiven : Carries Given.Takes {} [("label", .scalar (.text d.label)), ("scales", _)]
      { label := some d.label, scales := some d.scales } :=
    .cons (.label rfl) (.cons (.scales rfl hscales) (.nil _))
  exact readsValue_record ((hgiven.perm Given.Takes.swap hms.symm).imp Given.Takes.readsMember) rfl

theorem IsDescribedBy.exists_writes {d : SensorDefinition} {v : Value} (h : d.IsDescribedBy v) :
    ∃ text, Writes v text := by
  obtain ⟨hscales, hms⟩ := h
  refine exists_writes_object ?_
  simp only [hms.mem_iff]
  exact List.forall_mem_cons.2 ⟨exists_writes_text _,
    List.forall_mem_singleton.2 hscales.exists_writes⟩

end SensorDefinition

/-- An object describes a document of sensor types. -/
def SensorDocument.IsDescribedBy (sensors : SensorDocument) (v : Value) : Prop :=
  Table.IsDescribedBy SensorDefinition.IsDescribedBy sensors v

/-- A description of sensor types can be written. -/
theorem SensorDocument.IsDescribedBy.exists_writesDocument {sensors : SensorDocument} {v : Value}
    (h : SensorDocument.IsDescribedBy sensors v) : ∃ text, WritesDocument v text :=
  Json.exists_writesDocument
    (Table.IsDescribedBy.exists_writes h SensorDefinition.IsDescribedBy.exists_writes)

/-- **The sensor types are read** from any text that holds a description of them. -/
theorem SensorDocument.parse_eq_ok {sensors : SensorDocument} {v : Value} {text : String}
    (h : SensorDocument.IsDescribedBy sensors v) (htext : WritesDocument v text) :
    SensorDocument.parse text = .ok sensors :=
  document_eq_ok (Table.IsDescribedBy.readsValue h SensorDefinition.IsDescribedBy.readsValue) htext

end SensorCatalog
