import SensorCatalog.Proofs.ConstantsFile.Generated
import SensorCatalog.Proofs.ConstantsFile.Handwritten
import SensorCatalog.Regeneration.File

/-!
# The regenerated file, in two parts

The new text of the constants file is the generated part of the documents' catalogue with the part
written by hand below it, and there is one exactly if the documents make a catalogue and the end
marker occurs in the file (`renderFile_spec`). Of the old text only the part written by hand
matters, so a file that was regenerated in between makes no difference (`renderFile_renderFile`).

## Main definitions

* `Regeneration.IsCatalogOf`: the catalogue of two documents.
* `Regeneration.Unmarked`: nothing that is written out as it is holds the end marker.

## Main results

* `Regeneration.renderFile_spec`: the new text of the file.
* `Regeneration.renderFile_renderFile`: regenerating twice.
-/

namespace SensorCatalog.Regeneration

open ConstantsFile Fallible

/-- Two documents can be read and make a catalogue. -/
def IsCatalogOf (documents : Documents) (settings : Settings) (catalog : Catalog) : Prop :=
  ∃ sensors scales, SensorDocument.parse documents.sensorTypes = .ok sensors ∧
    ScaleDocument.parse documents.scales = .ok scales ∧
    Catalog.build scales sensors ⟨settings.keepingIds⟩ = .ok catalog

/-- Nothing that is written out as it is holds the end marker: no label of a sensor type, and not
the URL of the document. -/
structure Unmarked (documents : Documents) (settings : Settings) : Prop where
  /-- No label holds the marker. -/
  label : ∀ sensors, SensorDocument.parse documents.sensorTypes = .ok sensors →
    ∀ d ∈ sensors.entries, ¬ endMarker.toList <:+: d.2.label.toList
  /-- The URL does not hold the marker. -/
  blobUrl :
    ¬ endMarker.toList <:+: (settings.source.blobUrl settings.source.sensorTypesPath).toList

theorem unmarked_iff {documents : Documents} {settings : Settings} :
    Unmarked documents settings ↔
      (∀ d ∈ ((SensorDocument.parse documents.sensorTypes).toOption.getD ∅).entries,
        ¬ hasEndMarker d.2.label) ∧
      ¬ hasEndMarker (settings.source.blobUrl settings.source.sensorTypesPath) := by
  simp only [hasEndMarker_iff]
  refine ⟨fun h => ⟨?_, h.blobUrl⟩, fun h => ⟨?_, h.2⟩⟩
  · cases hparse : SensorDocument.parse documents.sensorTypes with
    | error e => exact List.forall_mem_nil _
    | ok sensors => exact h.label sensors hparse
  · intro sensors hparse
    rw [hparse] at h
    exact h.1

instance (documents : Documents) (settings : Settings) : Decidable (Unmarked documents settings) :=
  decidable_of_iff _ unmarked_iff.symm

/-! ### The steps to the new text -/

section

variable {documents : Documents} {settings : Settings} {catalog : Catalog}

theorem catalog_eq_ok_iff :
    Regeneration.catalog documents settings = .ok catalog ↔
      IsCatalogOf documents settings catalog := by
  simp only [Regeneration.catalog, bind_eq_ok_iff, mapError_eq_ok_iff, IsCatalogOf,
    exists_and_left]

/-- The generated part of the catalogue of two documents, with its end in sight. -/
theorem exists_generatedPart_eq (h : IsCatalogOf documents settings catalog) :
    ∃ body, generatedPart catalog settings = .ok (body ++ endBlock) ∧ body ≠ [] ∧
      ((∀ line ∈ body, ¬ hasEndMarker line) ↔ Unmarked documents settings) := by
  obtain ⟨sensors, scales, hsensors, -, hbuild⟩ := h
  obtain ⟨body, hrender, hbody, hfree⟩ := exists_render_eq hbuild settings.source
  refine ⟨body, mapError_eq_ok_iff.2 hrender, hbody, hfree.trans ⟨?_, ?_⟩⟩
  · rintro ⟨hlabel, hurl⟩
    refine ⟨fun sensors' hsensors' => ?_, hurl⟩
    obtain rfl : sensors = sensors' := Except.ok.inj (hsensors.symm.trans hsensors')
    exact hlabel
  · exact fun hunmarked => ⟨hunmarked.label sensors hsensors, hunmarked.blobUrl⟩

/-- The new text is made in three steps. -/
theorem renderFile_eq_ok_iff {previous text : String} :
    renderFile documents previous settings = .ok text ↔
      ∃ catalog generated region, IsCatalogOf documents settings catalog ∧
        generatedPart catalog settings = .ok generated ∧
        handwritten? previous = some region ∧ text = ConstantsFile.text (generated ++ region) := by
  simp only [renderFile, bind_eq_ok_iff, catalog_eq_ok_iff, ← exists_and_left]
  refine exists_congr fun catalog => exists_congr fun generated => ?_
  cases hregion : handwritten? previous with
  | none => simp [splice?, hregion]
  | some region => simp [splice?, hregion, pure, Except.pure, eq_comm]

/-- The new text, with the end of its generated part in sight. -/
theorem exists_eq_text_of_renderFile {previous text : String}
    (h : renderFile documents previous settings = .ok text) :
    ∃ body region, body ≠ [] ∧
      ((∀ line ∈ body, ¬ hasEndMarker line) ↔ Unmarked documents settings) ∧
      handwritten? previous = some region ∧
      text = ConstantsFile.text (body ++ endBlock ++ region) := by
  obtain ⟨catalog, generated, region, hcatalog, hgenerated, hregion, htext⟩ :=
    renderFile_eq_ok_iff.1 h
  obtain ⟨body, hpart, hbody, hfree⟩ := exists_generatedPart_eq hcatalog
  obtain rfl : body ++ endBlock = generated := Except.ok.inj (hpart.symm.trans hgenerated)
  exact ⟨body, region, hbody, hfree, hregion, htext⟩

end

/-! ### The new text -/

/-- The new text depends on the part written by hand only. -/
theorem renderFile_congr {documents : Documents} {settings : Settings} {previous previous' : String}
    (h : handwritten? previous = handwritten? previous') :
    renderFile documents previous settings = renderFile documents previous' settings := by
  simp only [renderFile, splice?, h]

/-- **The new text of the file.** There is one exactly if both documents can be read, they make a
catalogue, and the end marker occurs somewhere in the old text. It has the lines of the generated
part and those written by hand, with line feeds between them, and ends in one line feed. What stands
in the old text above the part written by hand does not matter. -/
theorem renderFile_spec (documents : Documents) (previous : String) (settings : Settings) :
    ((∃ text, renderFile documents previous settings = .ok text) ↔
      (∃ catalog, IsCatalogOf documents settings catalog) ∧
        endMarker.toList <:+: previous.toList) ∧
    (∀ text, renderFile documents previous settings = .ok text ↔
      ∃ catalog generated region, IsCatalogOf documents settings catalog ∧
        render catalog (UnitIndex.ofGroups catalog.groups.values) settings.source =
          .ok generated ∧
        IsHandwritten (Text.lines previous) region ∧
        text = Text.joinLines (generated ++ region) ++ (if region = [] then "" else "\n") ∧
        EndsInOneLineFeed text) ∧
    ∀ previous' above above' marked marked' below below',
      Text.lines previous = above ++ marked :: below →
      (∀ line ∈ above, ¬ hasEndMarker line) → hasEndMarker marked →
      Text.lines previous' = above' ++ marked' :: below' →
      (∀ line ∈ above', ¬ hasEndMarker line) → hasEndMarker marked' →
      below.drop 5 = below'.drop 5 →
      renderFile documents previous settings = renderFile documents previous' settings := by
  refine ⟨?_, fun text => ?_, ?_⟩
  · rw [← exists_handwritten?_iff]
    constructor
    · rintro ⟨text, h⟩
      obtain ⟨catalog, generated, region, hcatalog, -, hregion, -⟩ := renderFile_eq_ok_iff.1 h
      exact ⟨⟨catalog, hcatalog⟩, region, hregion⟩
    · rintro ⟨⟨catalog, hcatalog⟩, region, hregion⟩
      obtain ⟨body, hpart, -⟩ := exists_generatedPart_eq hcatalog
      exact ⟨_, renderFile_eq_ok_iff.2 ⟨catalog, _, region, hcatalog, hpart, hregion, rfl⟩⟩
  · rw [renderFile_eq_ok_iff]
    refine exists_congr fun catalog => exists_congr fun generated => exists_congr fun region => ?_
    rw [generatedPart, mapError_eq_ok_iff, handwritten?_eq_some_iff]
    refine and_congr_right fun hcatalog => and_congr_right fun hrender =>
      and_congr_right fun hregion => ?_
    obtain ⟨body, hpart, -⟩ := exists_generatedPart_eq hcatalog
    obtain rfl : body ++ endBlock = generated :=
      Except.ok.inj (hpart.symm.trans (mapError_eq_ok_iff.2 hrender))
    have hkept := handwritten?_isKept (handwritten?_eq_some_iff.2 hregion)
    rw [← text_endBlock_append body hkept]
    refine iff_self_and.2 ?_
    rintro rfl
    exact endsInOneLineFeed_text body hkept
  · intro previous' above above' marked marked' below below' hlines habove hmarked hlines' habove'
      hmarked' hbelow
    refine renderFile_congr ?_
    rw [handwritten?_eq_some_kept hlines habove hmarked,
      handwritten?_eq_some_kept hlines' habove' hmarked', hbelow]

/-- Two documents with nothing in them. -/
def emptyDocuments : Documents :=
  ⟨"\x7b\x7d", "\x7b\x7d"⟩

/-- Two files that differ above the part written by hand, and in how their lines end. -/
theorem renderFile_two_files :
    ∃ text,
      renderFile emptyDocuments ("a\n" ++ endMarker ++ "\n\n\n\n\n\nmod a;") {} = .ok text ∧
      renderFile emptyDocuments (endMarker ++ "\r\n1\n2\n3\n4\n5\nmod a;\r\n") {} = .ok text ∧
      EndsInOneLineFeed text := by
  have hok : (Regeneration.catalog emptyDocuments {}).isOk := by decide +kernel
  obtain ⟨catalog, hcatalog⟩ := exists_eq_ok_of_isOk hok
  have hinfix :
      endMarker.toList <:+: ("a\n" ++ endMarker ++ "\n\n\n\n\n\nmod a;").toList := by
    rw [String.toList_append, String.toList_append]
    exact List.infix_append _ _ _
  obtain ⟨hsome, htext, hsame⟩ :=
    renderFile_spec emptyDocuments ("a\n" ++ endMarker ++ "\n\n\n\n\n\nmod a;") {}
  obtain ⟨text, hrender⟩ := hsome.2 ⟨⟨catalog, catalog_eq_ok_iff.1 hcatalog⟩, hinfix⟩
  obtain ⟨_, _, _, -, -, -, -, hend⟩ := (htext text).1 hrender
  have hlines : Text.lines ("a\n" ++ endMarker ++ "\n\n\n\n\n\nmod a;") =
      ["a"] ++ endMarker :: ["", "", "", "", "", "mod a;"] := by decide +kernel
  have hlines' : Text.lines (endMarker ++ "\r\n1\n2\n3\n4\n5\nmod a;\r\n") =
      [] ++ endMarker :: ["1", "2", "3", "4", "5", "mod a;"] := by decide +kernel
  have habove : ∀ line ∈ ["a"], ¬ hasEndMarker line := by decide +kernel
  have hmarked : hasEndMarker endMarker := hasEndMarker_iff.2 List.infix_rfl
  have hequal :=
    hsame _ _ _ _ _ _ _ hlines habove hmarked hlines' (List.forall_mem_nil _) hmarked rfl
  exact ⟨text, hrender, hequal ▸ hrender, hend⟩

/-! ### Regenerating twice -/

/-- **Regenerating twice.** A file that was regenerated in between makes no difference, whatever it
was generated from. -/
theorem renderFile_renderFile {documents documents' : Documents} {settings settings' : Settings}
    {previous text : String} (hunmarked : Unmarked documents settings)
    (h : renderFile documents previous settings = .ok text) :
    renderFile documents' text settings' = renderFile documents' previous settings' := by
  obtain ⟨body, region, hbody, hfree, hregion, rfl⟩ := exists_eq_text_of_renderFile h
  refine renderFile_congr ?_
  rw [hregion, handwritten?_text hbody (hfree.2 hunmarked) (handwritten?_isKept hregion)]

end SensorCatalog.Regeneration
