import SensorCatalog.Proofs.ConstantsFile.Generated
import SensorCatalog.Proofs.ConstantsFile.Handwritten
import SensorCatalog.Proofs.ConstantsFile.Labels
import SensorCatalog.Proofs.ConstantsFile.Outline

/-!
# What a written file declares

The generated part is read line by line as it was put together (`readLines_generatedLines`). The
lines of a file that was written with it are the same, unless the reference to the document has ends
of lines in it: it is the one text that is written out as it is. So what is said of the lines of the
generated part holds of the file as well, down to the comment that ends this part.

The usual reference is one line (`isPlain_blobUrl`).

## Main results

* `ConstantsFile.isLine_of_mem_generatedLines`: each line of the generated part is one line.
* `ConstantsFile.exists_render_lines_text_eq`: the lines of a written file, and what they declare.
-/

namespace SensorCatalog.ConstantsFile

open Text (IsLine)

theorem isLine_reference {reference : String} (h : IsLine reference) :
    IsLine ("// " ++ reference) := by
  constructor
  · simpa using h.lineFeed_not_mem
  · have hlast := h.not_endsWith_return
    rw [String.toList_append, List.getLast?_append]
    cases hreference : reference.toList.getLast? with
    | none => decide
    | some c => simpa [hreference] using hlast

/-- In a type of constants only the reference may be more than a line. -/
theorem isLine_of_mem_constantType {name reference subject : String}
    {members : List (String × UInt8)} (hname : IsPlain name)
    (hmembers : ∀ m ∈ members, IsPlain m.1) (hsubject : IsPlain subject)
    (hreference : IsLine reference) :
    ∀ line ∈ constantType name members (some reference) subject, IsLine line := by
  intro line hline
  rcases mem_constantType_some.1 hline with rfl | hline
  · exact isLine_reference hreference
  · exact (isPlain_of_mem_constantType hname hmembers hsubject line hline).isLine

variable {scales : ScaleDocument} {sensors : SensorDocument} {rules : NameRules}
  {catalog : Catalog}

theorem isLine_of_mem_scaleClass (h : Catalog.build scales sensors rules = .ok catalog)
    {group : ScaleGroup} (hgroup : group ∈ catalog.groups.values) {reference : String}
    (hreference : IsLine reference) : ∀ line ∈ scaleClass reference group, IsLine line := by
  obtain ⟨label, hname⟩ := Catalog.exists_displayName_eq h hgroup
  exact isLine_of_mem_constantType (isPlain_of_isNameText (isNameText_className group.name))
    (List.forall_mem_map.2 fun e he => isPlain_of_isNameText (isNameText_scaleToken h hgroup he))
    (isPlain_append (isPlain_ofList rfl) (hname ▸ isPlain_displayName label)) hreference

/-- **Each line of the generated part is one line**, if the reference to the document is. -/
theorem isLine_of_mem_generatedLines (h : Catalog.build scales sensors rules = .ok catalog)
    {reference : String} (hreference : IsLine reference) :
    ∀ line ∈ generatedLines catalog reference, IsLine line := by
  have hmembers : ∀ m ∈ sensorMembers catalog, IsPlain m.1 :=
    List.forall_mem_map.2 fun e he => isPlain_sensorToken h he
  have hsensors := isLine_of_mem_constantType (isPlain_ofList rfl : IsPlain sensorTypeName)
    hmembers (isPlain_ofList rfl : IsPlain "") hreference
  have htypes := isPlain_of_mem_scaleTypes (List.forall_mem_map.2 fun group _ =>
    isPlain_of_isNameText (isNameText_className group.name) :
    ∀ c ∈ catalog.groups.values.map ScaleGroup.className, IsPlain c)
  have hmap := isPlain_of_mem_scaleMapLines h
  have hunits := isPlain_of_mem_unitLists (isPlain_of_mem_units h)
  have hblank : IsLine "" := IsPlain.isLine (isPlain_ofList rfl)
  simp only [generatedLines, List.forall_mem_append, List.forall_mem_singleton,
    List.forall_mem_map, List.forall_mem_flatMap]
  exact ⟨⟨⟨⟨⟨⟨⟨⟨⟨fun _ hline => isLine_of_mem_header hline,
    fun e he => isLine_property (isNameText_sensorToken h he) e.2⟩, hblank⟩, hsensors⟩,
    fun line hline => (htypes line hline).isLine⟩,
    fun group hgroup => isLine_of_mem_scaleClass h hgroup hreference⟩,
    fun line hline => (hmap line hline).isLine⟩, fun line hline => (hunits line hline).isLine⟩,
    hblank⟩, fun _ hline => isLine_of_mem_endBlock hline⟩

/-- **The lines of a written file.** They are those of the generated part and those of the part
written by hand, if the reference to the document is one line; without a part written by hand, only
the empty line at the end of the generated part is lost. So down to the comment that ends the
generated part the file declares what was put there. -/
theorem exists_render_lines_text_eq (h : Catalog.build scales sensors rules = .ok catalog)
    {source : Source} (hreference : IsLine (source.blobUrl source.sensorTypesPath)) :
    ∃ front, render catalog (UnitIndex.ofGroups catalog.groups.values) source =
        .ok (front ++ [""]) ∧
      readLines .module front = some (.module, outline catalog) ∧
      ∀ region, IsKept region → Text.lines (text (front ++ [""] ++ region)) =
        if region = [] then front else front ++ [""] ++ region := by
  obtain ⟨body, hlines, hbody⟩ : ∃ body, generatedLines catalog
      (source.blobUrl source.sensorTypesPath) = body ++ endBlock ∧ body ≠ [] :=
    ⟨_, rfl, by simp [header]⟩
  have hfront : body ++ endComment ++ [""] = body ++ endBlock := by
    rw [endBlock_eq, List.append_assoc]
  refine ⟨body ++ endComment, ?_, ?_, fun region hregion => ?_⟩
  · rw [hfront, ← hlines, render_eq h]
  · rw [← readLines_concat_empty, hfront, ← hlines, readLines_generatedLines h]
  · have hline : ∀ line ∈ body, IsLine line := fun line hline =>
      isLine_of_mem_generatedLines h hreference line (hlines ▸ List.mem_append_left _ hline)
    rw [hfront, lines_text_generated hbody hregion, Text.lines_joinLines_lineFeed hbody hline]
    split
    · rfl
    · rw [List.append_assoc]

example : IsLine (({} : Source).blobUrl ({} : Source).sensorTypesPath) :=
  isPlain_blobUrl.isLine

end SensorCatalog.ConstantsFile
