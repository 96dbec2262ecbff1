import SensorCatalog.Proofs.ConstantsFile.Generated
import SensorCatalog.Proofs.ConstantsFile.Preservation

/-!
# The generated part and its end

The generated part of a file is told from the part written by hand by the first line with the end
marker. That line is meant to be in the comment that ends the generated part. It is, unless the
marker occurs above the comment; with the usual source, this comes about exactly if it occurs in the
label of a sensor type (`render_delimits_iff`). Then the next run takes the end of the generated
part for text written by hand.

## Main results

* `ConstantsFile.handwrittenStart?_append_endBlock_iff`: the first line with the marker.
* `ConstantsFile.handwritten?_text_iff`: what is found in the written file.
* `ConstantsFile.render_delimits_iff`: the generated part of a catalogue.
-/

namespace SensorCatalog.ConstantsFile

/-! ### Above the comment -/

theorem findIdx?_append_endBlock_iff {body : List String} :
    (body ++ endBlock).findIdx? hasEndMarker = some (body.length + 1) ↔
      ∀ line ∈ body, ¬ hasEndMarker line := by
  obtain ⟨first, second, rest, hcomment, hfirst, hsecond⟩ := exists_endComment_eq
  rw [endBlock_eq, hcomment]
  constructor
  · intro h line hline
    obtain ⟨hlt, -, habove⟩ := List.findIdx?_eq_some_iff_getElem.1 h
    obtain ⟨i, hi, rfl⟩ := List.mem_iff_getElem.1 hline
    have hunmarked := habove i (by omega)
    rwa [List.getElem_append_left hi] at hunmarked
  · intro h
    rw [List.findIdx?_append, List.findIdx?_eq_none_iff.2 (by simpa using h)]
    simp [List.findIdx?_cons, hfirst, hsecond, Nat.add_comm]

theorem handwrittenStart?_append_endBlock_iff {body : List String} :
    handwrittenStart? (body ++ endBlock) = some (body ++ endBlock).length ↔
      ∀ line ∈ body, ¬ hasEndMarker line := by
  have hlength : (body ++ endBlock).length = body.length + 1 + handwrittenOffset := by
    rw [List.length_append]
    rfl
  rw [← findIdx?_append_endBlock_iff, hlength, handwrittenStart?, Option.map_eq_some_iff]
  constructor
  · rintro ⟨i, hi, hsum⟩
    rwa [Nat.add_right_cancel hsum] at hi
  · exact fun h => ⟨_, h, rfl⟩

/-- The last line of the comment that ends the generated part, and what follows it in a written
file. -/
theorem exists_end_eq (region : List String) :
    ∃ front last rest, front.length = 5 ∧ ¬ IsBlankLine last ∧
      essential rest = essential region ∧
      (if region = [] then endComment else endBlock ++ region) = front ++ last :: rest := by
  obtain ⟨front, last, hcomment, hlast, -⟩ := exists_endComment_eq_concat
  have hlength : front.length = 5 := by
    have htotal := congrArg List.length hcomment
    rw [length_endComment, List.length_append, List.length_singleton] at htotal
    omega
  have hline : Text.IsLine last := isLine_of_mem_endBlock (by simp [endBlock_eq, hcomment])
  have hblank : ¬ IsBlankLine last := by
    rw [← dropReturns_eq_empty_iff, dropReturns_of_isLine hline]
    exact hlast
  by_cases hnil : region = []
  · exact ⟨front, last, [], hlength, hblank, by rw [hnil], by rw [if_pos hnil, hcomment]⟩
  · have hempty : IsBlankLine "" := by simp [IsBlankLine]
    exact ⟨front, last, "" :: region, hlength, hblank, essential_cons_of_isBlankLine hempty region,
      by simp [if_neg hnil, endBlock_eq, hcomment]⟩

/-- **What is found in a written file.** It is the part written by hand that went into it exactly
if no end marker stands above the comment. -/
theorem handwritten?_text_iff {body region : List String} (hbody : body ≠ [])
    (hregion : IsKept region) :
    handwritten? (text (body ++ endBlock ++ region)) = some region ↔
      ∀ line ∈ body, ¬ hasEndMarker line := by
  refine ⟨fun hfound => ?_, fun hfree => handwritten?_text hbody hfree hregion⟩
  by_contra hmarked
  rw [← hasEndMarker_lines_joinLines_iff hbody] at hmarked
  obtain ⟨start, hstart, hle⟩ := exists_handwrittenStart?_le (by simpa using hmarked)
  rw [handwritten?, lines_text_generated hbody hregion, handwrittenStart?_append hstart,
    Option.map_some, Option.some.injEq] at hfound
  generalize Text.lines (Text.joinLines body ++ "\n") = written at hle hfound
  obtain ⟨front, last, rest, hlength, hblank, hrest, hend⟩ := exists_end_eq region
  -- the last line of the comment would be one line more that is not blank
  have hdrop : (written ++ (front ++ last :: rest)).drop start =
      (written ++ front).drop start ++ last :: rest := by
    rw [← List.append_assoc, List.drop_append_of_le_length (by simp [hlength, hle])]
  have hessential : essential ((written ++ front).drop start) ++ essential (last :: rest) =
      essential rest := by
    rw [hrest, ← hregion.filter_eq, ← essential_append, ← hdrop, ← hend]
    conv => rhs; rw [← hfound]
    exact (filter_kept _).symm
  have hmore := length_essential_lt hblank rest
  have hsum := congrArg List.length hessential
  rw [List.length_append] at hsum
  omega

/-! ### With the usual source -/

/-- **The end of the generated part.** With the usual source, the first line of a catalogue's
generated part that holds the end marker is the one in the comment at its end exactly if no sensor
type of the document has the marker in its label. Then the part written by hand begins just below
the generated part, in it and in every file that is written with it. -/
theorem render_delimits_iff {scales : ScaleDocument} {sensors : SensorDocument} {rules : NameRules}
    {catalog : Catalog} (h : Catalog.build scales sensors rules = .ok catalog) :
    ∃ body, render catalog (UnitIndex.ofGroups catalog.groups.values) {} =
        .ok (body ++ endBlock) ∧
      ((body ++ endBlock).findIdx? hasEndMarker = some (body.length + 1) ↔
        ∀ d ∈ sensors.entries, ¬ endMarker.toList <:+: d.2.label.toList) ∧
      (handwrittenStart? (body ++ endBlock) = some (body ++ endBlock).length ↔
        ∀ d ∈ sensors.entries, ¬ endMarker.toList <:+: d.2.label.toList) ∧
      ∀ region, IsKept region →
        (handwritten? (text (body ++ endBlock ++ region)) = some region ↔
          ∀ d ∈ sensors.entries, ¬ endMarker.toList <:+: d.2.label.toList) := by
  obtain ⟨body, hrender, hbody, hfree⟩ := exists_render_eq h {}
  have hurl :
      ¬ endMarker.toList <:+: (({} : Source).blobUrl ({} : Source).sensorTypesPath).toList :=
    fun hmarked => isPlain_blobUrl.not_hasEndMarker (hasEndMarker_iff.2 hmarked)
  rw [and_iff_left hurl] at hfree
  refine ⟨body, hrender, ?_, ?_, fun region hregion => ?_⟩
  · rw [findIdx?_append_endBlock_iff, hfree]
  · rw [handwrittenStart?_append_endBlock_iff, hfree]
  · rw [handwritten?_text_iff hbody hregion, hfree]

/-- A document with one sensor type, which has a label and an empty group of its own. -/
def documentWithLabel (label : String) : SensorDocument :=
  Table.ofList [("0x01", ⟨label, .own ∅⟩)]

/-- A label that lacks one character of the end marker does no harm. -/
theorem render_delimits_of_label :
    ∃ catalog body, Catalog.build ∅ (documentWithLabel "*END OF AUTOGENERATED CONTENT**") ⟨[]⟩ =
        .ok catalog ∧
      render catalog (UnitIndex.ofGroups catalog.groups.values) {} = .ok (body ++ endBlock) ∧
      handwrittenStart? (body ++ endBlock) = some (body ++ endBlock).length := by
  have hok : (Catalog.build ∅ (documentWithLabel "*END OF AUTOGENERATED CONTENT**") ⟨[]⟩).isOk := by
    decide +kernel
  obtain ⟨catalog, h⟩ := Fallible.exists_eq_ok_of_isOk hok
  obtain ⟨body, hrender, -, hstart, -⟩ := render_delimits_iff h
  exact ⟨catalog, body, h, hrender, hstart.2 (by decide +kernel)⟩

/-- **A label can look like the end.** The generated part for a label with the end marker is taken
to end before it does. -/
theorem exists_render_not_delimiting :
    ∃ catalog body start, Catalog.build ∅ (documentWithLabel endMarker) ⟨[]⟩ = .ok catalog ∧
      render catalog (UnitIndex.ofGroups catalog.groups.values) {} = .ok (body ++ endBlock) ∧
      handwrittenStart? (body ++ endBlock) = some start ∧ start < (body ++ endBlock).length := by
  have hok : (Catalog.build ∅ (documentWithLabel endMarker) ⟨[]⟩).isOk := by decide +kernel
  obtain ⟨catalog, h⟩ := Fallible.exists_eq_ok_of_isOk hok
  obtain ⟨body, hrender, -, hfree⟩ := exists_render_eq h {}
  have hlabel : ∃ d ∈ (documentWithLabel endMarker).entries,
      endMarker.toList <:+: d.2.label.toList :=
    ⟨("0x01", ⟨endMarker, .own ∅⟩), List.mem_singleton_self _, List.infix_rfl⟩
  have hmarked : ∃ line ∈ body, hasEndMarker line := by
    by_contra hnone
    obtain ⟨d, hd, hinfix⟩ := hlabel
    exact (hfree.1 fun line hline hl => hnone ⟨line, hline, hl⟩).1 d hd hinfix
  obtain ⟨start, hstart, hle⟩ := exists_handwrittenStart?_le hmarked
  refine ⟨catalog, body, start, h, hrender, handwrittenStart?_append hstart _, ?_⟩
  rw [List.length_append, endBlock_eq, List.length_append, length_endComment]
  omega

end SensorCatalog.ConstantsFile
