import SensorCatalog.Proofs.ConstantsFile.Marker
import SensorCatalog.Proofs.ConstantsFile.Remark
import SensorCatalog.Proofs.ConstantsFile.Sections
import SensorCatalog.Proofs.Text.Quoted

/-!
# The end marker in the generated part

The generated part ends in the comment with the end marker. Above it the marker can only come from
text that is written out as it is: from the labels of the sensor types, and from the URL of the
document. All other lines are made of fixed text, of names and of numbers, none of which has the
marker's first character.

## Main definitions

* `ConstantsFile.IsPlain`: a text without the first character of the end marker and without ends of
  lines.

## Main results

* `ConstantsFile.hasEndMarker_property_iff`: the marker in the line with a label.
* `ConstantsFile.exists_render_eq`: the generated part of a catalogue, and the marker in it.
-/

namespace SensorCatalog.ConstantsFile

/-! ### Plain text -/

/-- The characters of plain text. -/
def isPlainChar (c : Char) : Bool :=
  c != '*' && c != '\n' && c != '\r'

/-- A text without the character that the end marker begins and ends with, and without the ends of
lines. -/
def IsPlain (s : String) : Prop :=
  ∀ c ∈ s.toList, isPlainChar c

theorem isPlain_ofList {cs : List Char} (h : cs.all isPlainChar) : IsPlain (String.ofList cs) := by
  rw [IsPlain, String.toList_ofList]
  exact List.all_eq_true.1 h

theorem isPlain_append_iff {s t : String} : IsPlain (s ++ t) ↔ IsPlain s ∧ IsPlain t := by
  rw [IsPlain, String.toList_append, List.forall_mem_append]
  rfl

theorem isPlain_append {s t : String} (hs : IsPlain s) (ht : IsPlain t) : IsPlain (s ++ t) :=
  isPlain_append_iff.2 ⟨hs, ht⟩

theorem IsPlain.star_not_mem {s : String} (h : IsPlain s) : '*' ∉ s.toList :=
  fun hmem => absurd (h _ hmem) (by decide)

theorem IsPlain.not_hasEndMarker {line : String} (h : IsPlain line) : ¬ hasEndMarker line :=
  not_hasEndMarker_of_not_mem h.star_not_mem

/-- Plain text is a line. -/
theorem IsPlain.isLine {line : String} (h : IsPlain line) : Text.IsLine line :=
  ⟨fun hmem => absurd (h _ hmem) (by decide),
    fun hlast => absurd (h _ (List.mem_of_getLast? hlast)) (by decide)⟩

theorem isPlainChar_of_isNameChar {c : Char} (h : Text.isNameChar c) : isPlainChar c := by
  by_contra hplain
  have hc : c = '*' ∨ c = '\n' ∨ c = '\r' := by
    simpa [isPlainChar, or_iff_not_imp_left] using hplain
  rcases hc with rfl | rfl | rfl <;> exact absurd h (by decide)

theorem isPlain_of_isNameText {s : String} (h : Text.IsNameText s) : IsPlain s :=
  fun c hc => isPlainChar_of_isNameChar (h c hc)

theorem isPlain_displayName (label : String) : IsPlain (Label.displayName label) := by
  intro c hc
  rcases Label.mem_displayName hc with h | rfl
  · exact isPlainChar_of_isNameChar (by simp [Text.isNameChar, h])
  · rfl

/-- The usual reference to the document is plain text. -/
theorem isPlain_blobUrl : IsPlain (({} : Source).blobUrl ({} : Source).sensorTypesPath) := by
  have hbase : IsPlain (String.ofList (Text.dropTrailing (· == '/')
      ({} : Source).blobBase.toList)) := by
    rw [String.toList_ofList]
    exact isPlain_ofList (by decide)
  exact isPlain_append (isPlain_append (isPlain_append (isPlain_append (isPlain_append
    (isPlain_append hbase (isPlain_ofList rfl)) (isPlain_ofList rfl)) (isPlain_ofList rfl))
    (isPlain_ofList rfl)) (isPlain_ofList rfl)) (isPlain_ofList rfl)

/-- Plain text in front of a text is not part of the end marker. -/
theorem hasEndMarker_append_iff_right {s t : String} (h : IsPlain s) :
    hasEndMarker (s ++ t) ↔ hasEndMarker t := by
  rw [hasEndMarker_iff, hasEndMarker_iff, String.toList_append, toList_endMarker]
  exact Text.cons_infix_append_iff h.star_not_mem

/-- Plain text behind a text is not part of the end marker. -/
theorem hasEndMarker_append_iff_left {s t : String} (h : IsPlain t) :
    hasEndMarker (s ++ t) ↔ hasEndMarker s := by
  rw [hasEndMarker_iff, hasEndMarker_iff, String.toList_append,
    ← List.dropLast_concat_getLast endMarker_ne_nil]
  refine Text.concat_infix_append_iff ?_
  simp only [toList_endMarker]
  exact h.star_not_mem

/-! ### Lines with text of the documents -/

theorem escape_of_mem_endMarker : ∀ c ∈ endMarker.toList, Quoted.escape c = [c] := by
  have hall : endMarker.toList.all fun c => Quoted.escape c == [c] := by
    rw [toList_endMarker]
    decide
  exact fun c hc => eq_of_beq (List.all_eq_true.1 hall c hc)

theorem not_isEscapeChar_of_mem_endMarker :
    ∀ c ∈ endMarker.toList, ¬ Quoted.IsEscapeChar c := by
  have hall : endMarker.toList.all fun c => ! decide (Quoted.IsEscapeChar c) := by
    rw [toList_endMarker]
    decide
  exact fun c hc => by simpa using List.all_eq_true.1 hall c hc

/-- **The marker in the line with a label.** It is there exactly if it is in the label. -/
theorem hasEndMarker_property_iff {token : String} (htoken : IsPlain token) (sensor : SensorType) :
    hasEndMarker (property token sensor) ↔ endMarker.toList <:+: sensor.label.toList := by
  have hfront : IsPlain ("pub const " ++ token ++ "_PROPERTY: &str = ") :=
    isPlain_append (isPlain_append (isPlain_ofList rfl) htoken) (isPlain_ofList rfl)
  have hquoted : Quoted.quote sensor.label =
      "\"" ++ String.ofList (Quoted.encode sensor.label.toList) ++ "\"" := by
    rw [← String.toList_inj]
    simp [Quoted.quote]
  rw [property, hasEndMarker_append_iff_left (isPlain_ofList rfl),
    hasEndMarker_append_iff_right hfront, hquoted,
    hasEndMarker_append_iff_left (isPlain_ofList rfl),
    hasEndMarker_append_iff_right (isPlain_ofList rfl), hasEndMarker_iff, String.toList_ofList]
  exact Quoted.infix_encode_iff endMarker_ne_nil escape_of_mem_endMarker
    not_isEscapeChar_of_mem_endMarker

theorem hasEndMarker_reference_iff (reference : String) :
    hasEndMarker ("// " ++ reference) ↔ endMarker.toList <:+: reference.toList := by
  rw [hasEndMarker_append_iff_right (isPlain_ofList rfl), hasEndMarker_iff]

/-! ### Other lines -/

theorem not_hasEndMarker_of_mem_header : ∀ line ∈ header, ¬ hasEndMarker line := by
  intro line h
  simp only [header, beginBlock, List.cons_append, List.nil_append, List.mem_cons,
    List.not_mem_nil, or_false] at h
  rcases h with rfl | rfl | rfl | rfl | rfl | rfl | rfl | rfl | rfl | rfl
  all_goals
    rw [hasEndMarker_ofList, toList_endMarker]
    decide

theorem isPlain_squeeze {s : String} (h : IsPlain s) :
    IsPlain (String.ofList (squeeze s.toList)) := by
  rw [IsPlain, String.toList_ofList]
  exact fun c hc => h c (squeeze_subset _ hc)

theorem isPlain_of_mem_constantType {name subject : String} {members : List (String × UInt8)}
    (hname : IsPlain name) (hmembers : ∀ m ∈ members, IsPlain m.1) (hsubject : IsPlain subject) :
    ∀ line ∈ constantType name members none subject, IsPlain line := by
  have hremark := isPlain_squeeze (isPlain_append (isPlain_append
    (isPlain_ofList rfl : IsPlain "/// Enum for known ") hsubject)
    (isPlain_ofList rfl : IsPlain " multilevel sensor types."))
  simp only [constantType, Option.map_none, Option.toList_none, List.append_nil,
    List.forall_mem_append, List.forall_mem_cons, List.forall_mem_map, isPlain_append_iff]
  have hnumber : ∀ m : String × UInt8, IsPlain (toString m.2.toNat) := fun m =>
    isPlain_of_isNameText (isNameText_toString m.2.toNat)
  refine ⟨⟨⟨⟨hremark, List.forall_mem_nil _⟩, ?_, ⟨⟨?_, hname⟩, ?_⟩, ?_, ⟨⟨?_, hname⟩, ?_⟩,
    List.forall_mem_nil _⟩, fun m hm => ⟨⟨⟨⟨⟨?_, ?_⟩, hmembers m hm⟩, ?_⟩, hnumber m⟩, ?_⟩⟩, ?_, ?_,
    List.forall_mem_nil _⟩
  all_goals exact isPlain_ofList rfl

theorem mem_constantType_some {name reference subject line : String}
    {members : List (String × UInt8)} :
    line ∈ constantType name members (some reference) subject ↔
      line = "// " ++ reference ∨ line ∈ constantType name members none subject := by
  simp only [constantType, Option.map_some, Option.map_none, Option.toList_some,
    Option.toList_none, List.mem_append, List.append_nil, List.mem_singleton]
  rw [or_comm (a := line = _), or_assoc, or_assoc, or_assoc, or_assoc, or_assoc]

/-- In a type of constants, the marker can only come from the line that says where they are from. -/
theorem constantType_free_iff {name reference subject : String} {members : List (String × UInt8)}
    (hname : IsPlain name) (hmembers : ∀ m ∈ members, IsPlain m.1) (hsubject : IsPlain subject) :
    (∀ line ∈ constantType name members (some reference) subject, ¬ hasEndMarker line) ↔
      ¬ endMarker.toList <:+: reference.toList := by
  simp only [mem_constantType_some, forall_eq_or_imp, hasEndMarker_reference_iff]
  refine and_iff_left fun line hline => ?_
  exact (isPlain_of_mem_constantType hname hmembers hsubject line hline).not_hasEndMarker

theorem isPlain_of_mem_scaleTypes {classes : List String} (h : ∀ c ∈ classes, IsPlain c) :
    ∀ line ∈ scaleTypes classes, IsPlain line := by
  simp only [scaleTypes, List.forall_mem_append, List.forall_mem_cons, List.forall_mem_map,
    List.forall_mem_flatMap, List.not_mem_nil, false_implies, implies_true, and_true,
    isPlain_append_iff]
  -- what is left are the pieces of the lines, fixed text and the name of a class
  refine ⟨⟨⟨⟨⟨⟨⟨?_, fun c hc => ?_⟩, ?_⟩, fun c hc => ?_⟩, ?_⟩, fun c hc => ?_⟩, ?_⟩,
    fun c hc => ?_⟩
  case refine_2 =>
    exact ⟨⟨⟨⟨isPlain_ofList rfl, h c hc⟩, isPlain_ofList rfl⟩, h c hc⟩, isPlain_ofList rfl⟩
  case refine_4 => exact ⟨⟨isPlain_ofList rfl, h c hc⟩, isPlain_ofList rfl⟩
  case refine_6 =>
    refine ⟨⟨⟨⟨⟨⟨⟨⟨⟨?_, ?_⟩, ?_⟩, ?_⟩, h c hc⟩, ?_⟩, ?_⟩, ?_⟩, h c hc⟩, ?_⟩
    all_goals exact isPlain_ofList rfl
  case refine_8 =>
    refine ⟨⟨⟨⟨⟨isPlain_ofList rfl, h c hc⟩, ?_⟩, ?_⟩, ?_⟩, ⟨⟨⟨?_, ?_⟩, h c hc⟩, ?_⟩,
      ⟨⟨⟨⟨?_, ?_⟩, ?_⟩, h c hc⟩, ?_⟩, ⟨?_, ?_⟩, ?_, ?_⟩
    all_goals exact isPlain_ofList rfl
  all_goals
    repeat' first
      | exact isPlain_ofList rfl
      | refine ⟨?_, ?_⟩

theorem isPlain_of_mem_unitLists {units : UnitIndex}
    (h : ∀ e ∈ units.entries, IsPlain e.1 ∧ ∀ m ∈ e.2, IsPlain m.className ∧ IsPlain m.token) :
    ∀ line ∈ unitLists units, IsPlain line := by
  simp only [unitLists, unitList, List.forall_mem_flatMap, List.forall_mem_append,
    List.forall_mem_singleton, List.forall_mem_map, isPlain_append_iff]
  intro e he
  obtain ⟨htoken, hmembers⟩ := h e he
  refine ⟨⟨⟨⟨⟨⟨?_, htoken⟩, ?_⟩, ?_⟩, ?_⟩, fun m hm => ?_⟩, ?_⟩
  case refine_5 =>
    obtain ⟨hclass, hmember⟩ := hmembers m hm
    refine ⟨⟨⟨⟨⟨⟨⟨⟨?_, ?_⟩, ?_⟩, hclass⟩, ?_⟩, hclass⟩, ?_⟩, hmember⟩, ?_⟩
    all_goals exact isPlain_ofList rfl
  all_goals exact isPlain_ofList rfl

/-! ### The generated part of a catalogue -/

section Catalog

variable {scales : ScaleDocument} {sensors : SensorDocument} {rules : NameRules}
  {catalog : Catalog}

theorem isPlain_sensorToken (h : Catalog.build scales sensors rules = .ok catalog)
    {e : String × SensorType} (he : e ∈ catalog.sensors.entries) : IsPlain e.1 :=
  isPlain_of_isNameText (isNameText_sensorToken h he)

theorem isPlain_of_mem_scaleMapLines (h : Catalog.build scales sensors rules = .ok catalog) :
    ∀ line ∈ scaleMapLines catalog.sensors, IsPlain line := by
  simp only [scaleMapLines, List.forall_mem_append, List.forall_mem_cons, List.forall_mem_map,
    List.not_mem_nil, false_implies, implies_true, and_true, isPlain_append_iff]
  refine ⟨⟨?_, fun e he => ?_⟩, isPlain_ofList rfl, isPlain_ofList rfl⟩
  · refine ⟨⟨⟨⟨⟨⟨?_, ?_⟩, ?_⟩, ?_⟩, ?_⟩, ?_⟩, ?_⟩
    all_goals exact isPlain_ofList rfl
  · refine ⟨⟨⟨⟨⟨⟨⟨⟨⟨?_, ?_⟩, ?_⟩, ?_⟩, isPlain_sensorToken h he⟩, ?_⟩, ?_⟩, ?_⟩,
      isPlain_of_isNameText (isNameText_className e.2.group)⟩, ?_⟩
    all_goals exact isPlain_ofList rfl

theorem isPlain_of_mem_units (h : Catalog.build scales sensors rules = .ok catalog) :
    ∀ e ∈ (UnitIndex.ofGroups catalog.groups.values).entries,
      IsPlain e.1 ∧ ∀ m ∈ e.2, IsPlain m.className ∧ IsPlain m.token := by
  intro e he
  obtain ⟨htoken, hmembers⟩ := isNameText_of_mem_units h e he
  exact ⟨isPlain_of_isNameText htoken, fun m hm =>
    ⟨isPlain_of_isNameText (hmembers m hm).1, isPlain_of_isNameText (hmembers m hm).2⟩⟩

/-- The marker stands in the constants of the sensor types exactly if it stands in a label. -/
theorem properties_free_iff (h : Catalog.build scales sensors rules = .ok catalog) :
    (∀ line ∈ catalog.sensors.entries.map (fun e => property e.1 e.2), ¬ hasEndMarker line) ↔
      ∀ d ∈ sensors.entries, ¬ endMarker.toList <:+: d.2.label.toList := by
  rw [List.forall_mem_map]
  refine Iff.trans ?_
    (Catalog.forall_label_iff h fun label => ¬ endMarker.toList <:+: label.toList)
  exact forall₂_congr fun e he =>
    not_congr (hasEndMarker_property_iff (isPlain_sensorToken h he) e.2)

/-- It stands in the class of a group exactly if it stands in the reference above it. -/
theorem scaleClass_free_iff (h : Catalog.build scales sensors rules = .ok catalog)
    {group : ScaleGroup} (hgroup : group ∈ catalog.groups.values) (reference : String) :
    (∀ line ∈ scaleClass reference group, ¬ hasEndMarker line) ↔
      ¬ endMarker.toList <:+: reference.toList := by
  obtain ⟨label, hname⟩ := Catalog.exists_displayName_eq h hgroup
  exact constantType_free_iff (isPlain_of_isNameText (isNameText_className group.name))
    (List.forall_mem_map.2 fun e he => isPlain_of_isNameText (isNameText_scaleToken h hgroup he))
    (isPlain_append (isPlain_ofList rfl) (hname ▸ isPlain_displayName label))

/-- **The marker above the end of the generated part.** A catalogue has a generated part, and above
the comment that ends it the end marker stands exactly if it stands in a label of the document or in
the URL of the document. -/
theorem exists_render_eq (h : Catalog.build scales sensors rules = .ok catalog) (source : Source) :
    ∃ body, render catalog (UnitIndex.ofGroups catalog.groups.values) source =
        .ok (body ++ endBlock) ∧ body ≠ [] ∧
      ((∀ line ∈ body, ¬ hasEndMarker line) ↔
        (∀ d ∈ sensors.entries, ¬ endMarker.toList <:+: d.2.label.toList) ∧
          ¬ endMarker.toList <:+: (source.blobUrl source.sensorTypesPath).toList) := by
  refine ⟨_, render_eq h source, by simp, ?_⟩
  have hsensors := @constantType_free_iff sensorTypeName
    (source.blobUrl source.sensorTypesPath) "" (sensorMembers catalog) (isPlain_ofList rfl)
    (List.forall_mem_map.2 fun e he => isPlain_sensorToken h he) (isPlain_ofList rfl)
  have htypes : ∀ line ∈ scaleTypes (catalog.groups.values.map ScaleGroup.className),
      IsPlain line :=
    isPlain_of_mem_scaleTypes (List.forall_mem_map.2 fun group _ =>
      isPlain_of_isNameText (isNameText_className group.name))
  have hmap := isPlain_of_mem_scaleMapLines h
  have hunits := isPlain_of_mem_unitLists (isPlain_of_mem_units h)
  have hblank : ¬ hasEndMarker "" := IsPlain.not_hasEndMarker (isPlain_ofList rfl)
  simp only [List.forall_mem_append, List.forall_mem_singleton, properties_free_iff h, hsensors,
    List.forall_mem_flatMap]
  constructor
  · rintro ⟨⟨⟨⟨⟨⟨⟨⟨-, hlabels⟩, -⟩, hreference⟩, -⟩, -⟩, -⟩, -⟩, -⟩
    exact ⟨hlabels, hreference⟩
  · rintro ⟨hlabels, hreference⟩
    exact ⟨⟨⟨⟨⟨⟨⟨⟨not_hasEndMarker_of_mem_header, hlabels⟩, hblank⟩, hreference⟩,
      fun line hline => (htypes line hline).not_hasEndMarker⟩,
      fun group hgroup => (scaleClass_free_iff h hgroup _).2 hreference⟩,
      fun line hline => (hmap line hline).not_hasEndMarker⟩,
      fun line hline => (hunits line hline).not_hasEndMarker⟩, hblank⟩

end Catalog

end SensorCatalog.ConstantsFile
