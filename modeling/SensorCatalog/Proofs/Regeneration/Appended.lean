import SensorCatalog.Proofs.ConstantsFile.Preservation
import SensorCatalog.Proofs.Regeneration.Sequence

/-!
# Lines appended between runs

Between two runs, lines are appended to the file by hand. The second run keeps them, with one
exception: if the first run found no part written by hand, the file it wrote ends in the comment at
the end of the generated part, and the line appended first is taken for the empty line below that
comment and lost.

## Main results

* `Regeneration.keeps_iff`: when lines below the generated part are kept.
* `Regeneration.splice?_below_endComment_eq_nil`: a line that is lost.
-/

namespace SensorCatalog.Regeneration

open ConstantsFile Fallible

namespace Step

/-- What a step that succeeds makes of a file. -/
theorem exists_renderFile_of_succeeds {step : Step} {file : Option ByteArray}
    (h : step.succeeds file) :
    ∃ documents bytes previous text, step.documents = .ok documents ∧ file = some bytes ∧
      String.fromUTF8? bytes = some previous ∧
      renderFile documents previous step.settings = .ok text ∧
      (step.run file).file = some text.toUTF8 := by
  obtain ⟨text, hnew⟩ := succeeds_iff.1 h
  obtain ⟨documents, bytes, previous, hdocuments, hfile, hbytes, hrender⟩ :=
    newText_eq_ok_iff.1 hnew
  exact ⟨documents, bytes, previous, text, hdocuments, hfile, hbytes, hrender,
    file_run_of_ok hnew⟩

theorem succeeds_of_renderFile {step : Step} {documents : Documents} {bytes : ByteArray}
    {previous text : String} (hdocuments : step.documents = .ok documents)
    (hbytes : String.fromUTF8? bytes = some previous)
    (h : renderFile documents previous step.settings = .ok text) : step.succeeds (some bytes) :=
  succeeds_iff.2
    ⟨text, newText_eq_ok_iff.2 ⟨documents, bytes, previous, hdocuments, rfl, hbytes, h⟩⟩

end Step

theorem fromUTF8?_toUTF8_append (text appended : String) :
    String.fromUTF8? (text.toUTF8 ++ appended.toUTF8) = some (text ++ appended) :=
  fromUTF8?_toUTF8 (text ++ appended)

/-- A text that was made from a file, and lines appended to it: the text that is made next keeps
them exactly if there was a part written by hand already, or the text was written with an end marker
in its generated part, or the first of the lines is blank. -/
theorem exists_keeps_appended_iff {documents documents' : Documents}
    {settings settings' : Settings} {previous appended text text' : String}
    (h : renderFile documents previous settings = .ok text)
    (h' : renderFile documents' (text ++ appended) settings' = .ok text') :
    ∃ region catalog' generated' result, handwritten? previous = some region ∧
      IsCatalogOf documents' settings' catalog' ∧
      generatedPart catalog' settings' = .ok generated' ∧
      splice? generated' (text ++ appended) = some result ∧
      text' = ConstantsFile.text result ∧
      (Keeps (Text.lines appended) generated' result ↔
        region ≠ [] ∨ ¬ Unmarked documents settings ∨
          ∀ line ∈ (Text.lines appended).head?, IsBlankLine line) := by
  obtain ⟨body, region, hbody, hfree, hregion, rfl⟩ := exists_eq_text_of_renderFile h
  obtain ⟨catalog', generated', region', hcatalog', hgenerated', hregion', rfl⟩ :=
    renderFile_eq_ok_iff.1 h'
  obtain ⟨result, hresult, hkeeps⟩ :=
    exists_splice?_appended hbody (handwritten?_isKept hregion) generated' appended
  have hmarked : (∃ line ∈ body, hasEndMarker line) ↔ ¬ Unmarked documents settings := by
    rw [← hfree]
    simp
  refine ⟨region, catalog', generated', result, hregion, hcatalog', hgenerated', hresult, ?_,
    hkeeps.trans (by rw [hmarked])⟩
  rw [splice?, hregion', Option.map_some] at hresult
  rw [Option.some.inj hresult]

/-- Lines may be appended to a text that was made from a file: a text is made from it as before. -/
theorem exists_renderFile_appended {documents documents' : Documents}
    {settings settings' : Settings} {previous text text' : String}
    (h : renderFile documents previous settings = .ok text)
    (h' : renderFile documents' previous settings' = .ok text') (appended : String) :
    ∃ text'', renderFile documents' (text ++ appended) settings' = .ok text'' := by
  obtain ⟨body, region, hbody, -, hregion, rfl⟩ := exists_eq_text_of_renderFile h
  obtain ⟨catalog', generated', region', hcatalog', hgenerated', -, -⟩ := renderFile_eq_ok_iff.1 h'
  obtain ⟨result, hresult, -⟩ :=
    exists_splice?_appended hbody (handwritten?_isKept hregion) generated' appended
  obtain ⟨region'', hregion'', -⟩ := Option.map_eq_some_iff.1 hresult
  exact ⟨_, renderFile_eq_ok_iff.2
    ⟨catalog', generated', region'', hcatalog', hgenerated', hregion'', rfl⟩⟩

/-- **Lines below the generated part.** Of the lines below the comment that ends the generated part,
all that are not blank are kept exactly if the first one is blank. Lines appended to a file after a
step are kept by the next one exactly if the step found a part written by hand already, or wrote an
end marker above the comment, or the first of the lines is blank. -/
theorem keeps_iff (generated : List String) (appended : String) :
    (∀ previous above below, Text.lines previous = above ++ endComment ++ below →
      (∀ line ∈ above, ¬ hasEndMarker line) →
      ∃ result, splice? generated previous = some result ∧
        (Keeps below generated result ↔ ∀ line ∈ below.head?, IsBlankLine line)) ∧
    ∀ (first second : Step) file written, first.succeeds file →
      (first.run file).file = some written →
      second.succeeds (some (written ++ appended.toUTF8)) →
      ∃ documents bytes previous region text documents' catalog' generated' result,
        (first.documents = .ok documents ∧ file = some bytes ∧
          String.fromUTF8? bytes = some previous ∧ handwritten? previous = some region ∧
          renderFile documents previous first.settings = .ok text) ∧
        (second.documents = .ok documents' ∧ IsCatalogOf documents' second.settings catalog' ∧
          generatedPart catalog' second.settings = .ok generated' ∧
          splice? generated' (text ++ appended) = some result ∧
          (second.run (some (written ++ appended.toUTF8))).file =
            some (ConstantsFile.text result).toUTF8) ∧
        (Keeps (Text.lines appended) generated' result ↔
          region ≠ [] ∨ ¬ Unmarked documents first.settings ∨
            ∀ line ∈ (Text.lines appended).head?, IsBlankLine line) := by
  constructor
  · intro previous above below hlines habove
    exact exists_splice?_below_endComment hlines habove generated
  · intro first second file written hfirst hwritten hsecond
    obtain ⟨documents, bytes, previous, text, hdocuments, hfile, hbytes, hrender, hrun⟩ :=
      Step.exists_renderFile_of_succeeds hfirst
    obtain rfl : text.toUTF8 = written := Option.some.inj (hrun.symm.trans hwritten)
    obtain ⟨documents', _, previous', text', hdocuments', hfile', hbytes', hrender', hrun'⟩ :=
      Step.exists_renderFile_of_succeeds hsecond
    obtain rfl : text ++ appended = previous' := by
      rw [← Option.some.inj hfile'] at hbytes'
      exact Option.some.inj ((fromUTF8?_toUTF8_append text appended).symm.trans hbytes')
    obtain ⟨region, catalog', generated', result, hregion, hcatalog', hgenerated', hresult, rfl,
      hkeeps⟩ := exists_keeps_appended_iff hrender hrender'
    exact ⟨documents, bytes, previous, region, text, documents', catalog', generated', result,
      ⟨hdocuments, hfile, hbytes, hregion, hrender⟩,
      ⟨hdocuments', hcatalog', hgenerated', hresult, hrun'⟩, hkeeps⟩

/-- A file that consists of the comment and lines below it. -/
theorem lines_text_endComment (lines : List String) {line : String} (hne : line ≠ "")
    (h : ∀ l ∈ lines ++ [line], Text.IsLine l) :
    Text.lines (ConstantsFile.text (endComment ++ (lines ++ [line]))) =
      endComment ++ (lines ++ [line]) := by
  rw [← List.append_assoc]
  refine lines_text_concat hne fun l hl => ?_
  rw [List.append_assoc] at hl
  rcases List.mem_append.1 hl with hl | hl
  · exact isLine_of_mem_endBlock (endBlock_eq ▸ List.mem_append_left _ hl)
  · exact h l hl

/-- A line below an empty one is kept, and a line that is appended to a file without a part written
by hand is lost. -/
theorem keeps_below_empty_and_not_appended :
    (∃ previous result, Text.lines previous = [] ++ endComment ++ ["", "mod a;"] ∧
      splice? [] previous = some result ∧ Keeps ["", "mod a;"] [] result) ∧
    ∃ written, (askingForLabel "A").succeeds markedFile ∧
      ((askingForLabel "A").run markedFile).file = some written ∧
      (askingForLabel "B").succeeds (some (written ++ "mod a;\n".toUTF8)) ∧
      ∃ generated result,
        ((askingForLabel "B").run (some (written ++ "mod a;\n".toUTF8))).file =
          some (ConstantsFile.text result).toUTF8 ∧
        ¬ Keeps ["mod a;"] generated result := by
  have hline : Text.IsLine "mod a;" := Text.isLine_ofList (by decide) (by decide)
  have hempty : Text.IsLine "" := Text.isLine_ofList (by decide) (by decide)
  constructor
  · have hlines : Text.lines (ConstantsFile.text (endComment ++ ["", "mod a;"])) =
        endComment ++ ["", "mod a;"] :=
      lines_text_endComment [""] (by decide) (by simp [hline, hempty])
    obtain ⟨result, hresult, hkeeps⟩ := (keeps_iff [] "").1 _ [] _ hlines (List.forall_mem_nil _)
    exact ⟨_, result, hlines, hresult, hkeeps.2 (by simp [IsBlankLine])⟩
  · have hfirst : (askingForLabel "A").succeeds markedFile := by decide +kernel
    have hlater : (askingForLabel "B").succeeds markedFile := by decide +kernel
    obtain ⟨_, bytes, previous, text, -, hfile, hbytes, hrender, hrun⟩ :=
      Step.exists_renderFile_of_succeeds hfirst
    obtain ⟨_, bytes', previous', text', hdocuments', hfile', hbytes', hrender', -⟩ :=
      Step.exists_renderFile_of_succeeds hlater
    obtain rfl : bytes = bytes' := Option.some.inj (hfile.symm.trans hfile')
    obtain rfl : previous = previous' := Option.some.inj (hbytes.symm.trans hbytes')
    obtain ⟨text'', hrender''⟩ := exists_renderFile_appended hrender hrender' "mod a;\n"
    have hsecond : (askingForLabel "B").succeeds (some (text.toUTF8 ++ "mod a;\n".toUTF8)) :=
      Step.succeeds_of_renderFile hdocuments' (fromUTF8?_toUTF8_append _ _) hrender''
    obtain ⟨documents, _, previous', region, _, _, _, generated, result,
      ⟨hdocuments, hfile', hbytes', hregion, -⟩, ⟨-, -, -, -, hrun'⟩, hkeeps⟩ :=
      (keeps_iff [] "mod a;\n").2 _ _ _ _ hfirst hrun hsecond
    refine ⟨text.toUTF8, hfirst, hrun, hsecond, generated, result, hrun', ?_⟩
    have hlines : Text.lines "mod a;\n" = ["mod a;"] := by decide +kernel
    rw [hlines] at hkeeps
    rw [hkeeps]
    rintro (hregion' | hmarked | hblank)
    · obtain rfl : endMarker.toUTF8 = _ := Option.some.inj hfile'
      obtain rfl : endMarker = previous' :=
        Option.some.inj ((fromUTF8?_toUTF8 endMarker).symm.trans hbytes')
      have hnothing : handwritten? endMarker = some [] := by decide +kernel
      exact hregion' (Option.some.inj (hregion.symm.trans hnothing))
    · have hunmarked : (askingForLabel "A").Unmarked := by decide +kernel
      exact hmarked (hunmarked documents hdocuments)
    · exact absurd (hblank "mod a;" rfl) (by decide +kernel)

/-- **A line that is lost.** The line directly below the comment is not in the new file. -/
theorem splice?_below_endComment_eq_nil :
    ∃ previous, Text.lines previous = [] ++ endComment ++ ["mod a;"] ∧
      ¬ IsBlankLine "mod a;" ∧ splice? [] previous = some [] := by
  have hline : Text.IsLine "mod a;" := Text.isLine_ofList (by decide) (by decide)
  have hlines : Text.lines (ConstantsFile.text (endComment ++ ["mod a;"])) =
      endComment ++ ["mod a;"] := lines_text_endComment [] (by decide) (by simp [hline])
  have hstart : handwrittenStart? (endComment ++ ["mod a;"]) = some 7 :=
    handwrittenStart?_endComment (List.forall_mem_nil _) ["mod a;"]
  refine ⟨_, hlines, by decide +kernel, ?_⟩
  rw [splice?, handwritten?, hlines, hstart]
  rfl

end SensorCatalog.Regeneration
