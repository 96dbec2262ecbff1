import SensorCatalog.Proofs.Regeneration.File
import SensorCatalog.Regeneration.Run

/-!
# Runs one after another

The file is regenerated again and again, each time with other settings and in another world; nothing
else touches it in between, and the disk lets it be read and be written in full. A run that fails
leaves the file as it was, and one that succeeds leaves no trace of the generated part that it
replaced. So after any sequence of runs the file is what the last successful run would have made of
the first file (`fileAfter_spec`).

## Main definitions

* `Regeneration.Step`, `Regeneration.Step.run`: a run on a file that is there from before.
* `Regeneration.fileAfter`, `Regeneration.successes`: the file after steps, and the steps that
  succeeded.

## Main results

* `Regeneration.Step.newText_file_run`: what a step leaves of the file for later ones.
* `Regeneration.fileAfter_spec`: the file after any sequence of steps.
-/

namespace SensorCatalog.Regeneration

open ConstantsFile Fallible

/-- A run that is still to be made, with all that it meets but the file. -/
structure Step where
  /-- The settings of the run. -/
  settings : Settings
  /-- What comes of asking for URLs. -/
  network : Network
  /-- What comes of starting the formatter. -/
  formatter : Check.Launch
  /-- What comes of starting the version control. -/
  vcs : Check.Launch

namespace Step

/-- What a step meets on a file. -/
def world (step : Step) (file : Option ByteArray) : World where
  network := step.network
  formatter := step.formatter
  vcs := step.vcs
  file

/-- What comes of a step on a file. -/
def run (step : Step) (file : Option ByteArray) : Run :=
  Regeneration.run step.settings (step.world file)

/-- What a step fetches. -/
def fetched (step : Step) : Fetched Documents :=
  fetch step.network step.settings.source step.settings.fetchTimeout

/-- The documents that a step fetches. -/
def documents (step : Step) : Except Failure Documents :=
  step.fetched.result

/-- The step succeeds on a file. -/
def succeeds (step : Step) (file : Option ByteArray) : Bool :=
  (step.run file).result.isOk

/-- Nothing that the step would write out as it is holds the end marker. -/
def Unmarked (step : Step) : Prop :=
  ∀ documents, step.documents = .ok documents → Regeneration.Unmarked documents step.settings

instance (step : Step) : Decidable step.Unmarked :=
  match h : step.documents with
  | .error _ => isTrue fun _ hdocuments => nomatch h.symm.trans hdocuments
  | .ok documents => decidable_of_iff (Regeneration.Unmarked documents step.settings)
      ⟨fun hunmarked _ hdocuments => Except.ok.inj (h.symm.trans hdocuments) ▸ hunmarked,
        fun hunmarked => hunmarked documents h⟩

end Step

/-- The file after steps. -/
def fileAfter (file : Option ByteArray) (steps : List Step) : Option ByteArray :=
  steps.foldl (fun file step => (step.run file).file) file

/-- The steps that succeed when they are taken one after another. -/
def successes (file : Option ByteArray) : List Step → List Step
  | [] => []
  | step :: steps =>
    if step.succeeds file then step :: successes (step.run file).file steps
    else successes (step.run file).file steps

/-! ### The new text of a file -/

theorem fromUTF8?_toUTF8 (text : String) : String.fromUTF8? text.toUTF8 = some text :=
  dif_pos text.isValidUTF8

theorem readPrevious_eq_ok_iff {path previous : String} {file : Option ByteArray} :
    readPrevious path file = .ok previous ↔
      ∃ bytes, file = some bytes ∧ String.fromUTF8? bytes = some previous := by
  cases file with
  | none => simp [readPrevious]
  | some bytes => cases hbytes : String.fromUTF8? bytes <;> simp [readPrevious, hbytes]

theorem newText_of_fromUTF8? {settings : Settings} {documents : Documents} {bytes : ByteArray}
    {previous : String} (h : String.fromUTF8? bytes = some previous) :
    newText settings (.ok documents) (some bytes) = renderFile documents previous settings := by
  simp only [newText, readPrevious, h]
  rfl

theorem newText_eq_ok_iff {settings : Settings} {fetched : Except Failure Documents}
    {file : Option ByteArray} {text : String} :
    newText settings fetched file = .ok text ↔
      ∃ documents bytes previous, fetched = .ok documents ∧ file = some bytes ∧
        String.fromUTF8? bytes = some previous ∧
        renderFile documents previous settings = .ok text := by
  constructor
  · intro h
    obtain ⟨documents, rfl, hrest⟩ := bind_eq_ok_iff.1 h
    obtain ⟨previous, hprevious, hrender⟩ := bind_eq_ok_iff.1 hrest
    obtain ⟨bytes, rfl, hbytes⟩ := readPrevious_eq_ok_iff.1 hprevious
    exact ⟨documents, bytes, previous, rfl, rfl, hbytes, hrender⟩
  · rintro ⟨documents, bytes, previous, rfl, rfl, hbytes, hrender⟩
    rw [newText_of_fromUTF8? hbytes, hrender]

/-! ### One step -/

namespace Step

variable {step : Step} {file : Option ByteArray}

/-- What comes of a step is a matter of the new text. -/
theorem run_eq (step : Step) (file : Option ByteArray) :
    step.run file =
      match newText step.settings step.documents file with
      | .error failure =>
        { result := .error failure, file, written := none, calls := step.fetched.calls,
          started := [] }
      | .ok text =>
        { result := .ok (report step.settings (step.world file)), file := some text.toUTF8,
          written := some text.toUTF8, calls := step.fetched.calls,
          started := started step.settings (step.world file) } :=
  rfl

theorem succeeds_iff :
    step.succeeds file ↔ ∃ text, newText step.settings step.documents file = .ok text := by
  rw [succeeds, run_eq]
  cases newText step.settings step.documents file <;> simp [Except.isOk, Except.toBool]

/-- A step that succeeds writes the new text. -/
theorem file_run_of_ok {text : String}
    (h : newText step.settings step.documents file = .ok text) :
    (step.run file).file = some text.toUTF8 := by
  rw [run_eq, h]

/-- A step that fails leaves the file as it was. -/
theorem file_run_of_not_succeeds (h : ¬ step.succeeds file) : (step.run file).file = file := by
  rw [succeeds_iff] at h
  rw [run_eq]
  cases hnew : newText step.settings step.documents file with
  | error failure => rfl
  | ok text => exact absurd ⟨text, hnew⟩ h

/-- **A step leaves no trace.** For every later run, the file that a step leaves is as good as the
one that it found. -/
theorem newText_file_run (h : step.succeeds file → step.Unmarked) (settings : Settings)
    (fetched : Except Failure Documents) :
    newText settings fetched (step.run file).file = newText settings fetched file := by
  by_cases hsucceeds : step.succeeds file
  · obtain ⟨text, hnew⟩ := succeeds_iff.1 hsucceeds
    rw [file_run_of_ok hnew]
    obtain ⟨documents, bytes, previous, hdocuments, rfl, hbytes, hrender⟩ :=
      newText_eq_ok_iff.1 hnew
    cases fetched with
    | error failure => rfl
    | ok documents' =>
      rw [newText_of_fromUTF8? (fromUTF8?_toUTF8 text), newText_of_fromUTF8? hbytes]
      exact renderFile_renderFile (h hsucceeds documents hdocuments) hrender
  · rw [file_run_of_not_succeeds hsucceeds]

theorem run_run (h : step.succeeds file → step.Unmarked) :
    step.run (step.run file).file = step.run file := by
  by_cases hsucceeds : step.succeeds file
  · obtain ⟨text, hnew⟩ := succeeds_iff.1 hsucceeds
    rw [run_eq step (step.run file).file, newText_file_run h, run_eq step file, hnew]
    rfl
  · rw [file_run_of_not_succeeds hsucceeds]

/-- Whether a later step succeeds does not depend on the step before it. -/
theorem succeeds_file_run_iff (h : step.succeeds file → step.Unmarked) {later : Step} :
    later.succeeds (step.run file).file ↔ later.succeeds file := by
  rw [succeeds_iff, succeeds_iff, newText_file_run h]

/-- A step that cannot fetch the documents fails on every file. -/
theorem not_succeeds_of_documents (h : ¬ step.documents.isOk) : ¬ step.succeeds file := by
  rw [succeeds_iff]
  rintro ⟨text, hnew⟩
  obtain ⟨documents, bytes, previous, hdocuments, -⟩ := newText_eq_ok_iff.1 hnew
  exact h (by rw [hdocuments]; rfl)

end Step

/-! ### Any number of steps -/

theorem successes_cons_of_succeeds {step : Step} {file : Option ByteArray}
    (h : step.succeeds file) (steps : List Step) :
    successes file (step :: steps) = step :: successes (step.run file).file steps := by
  rw [successes, if_pos h]

theorem successes_cons_of_not_succeeds {step : Step} {file : Option ByteArray}
    (h : ¬ step.succeeds file) (steps : List Step) :
    successes file (step :: steps) = successes (step.run file).file steps := by
  rw [successes, if_neg h]

/-- The file after steps, in terms of the new text that the last success makes of the first file. -/
theorem fileAfter_eq {file : Option ByteArray} {steps : List Step}
    (h : ∀ step ∈ successes file steps, step.Unmarked) :
    match (successes file steps).getLast? with
    | none => fileAfter file steps = file
    | some step => ∃ text, newText step.settings step.documents file = .ok text ∧
        fileAfter file steps = some text.toUTF8 := by
  induction steps generalizing file with
  | nil => rfl
  | cons step steps ih =>
    have hfile : fileAfter file (step :: steps) = fileAfter (step.run file).file steps := rfl
    by_cases hsucceeds : step.succeeds file
    · rw [successes_cons_of_succeeds hsucceeds] at h ⊢
      obtain ⟨hstep, hsteps⟩ := List.forall_mem_cons.1 h
      obtain ⟨text, hnew⟩ := Step.succeeds_iff.1 hsucceeds
      have hlast := ih hsteps
      rw [hfile, List.getLast?_cons]
      cases hrest : (successes (step.run file).file steps).getLast? with
      | none =>
        -- the step is the last one that succeeds
        rw [hrest] at hlast
        exact ⟨text, hnew, hlast.trans (Step.file_run_of_ok hnew)⟩
      | some last =>
        rw [hrest] at hlast
        obtain ⟨text', hnew', hafter⟩ := hlast
        exact ⟨text', (Step.newText_file_run (fun _ => hstep) _ _).symm.trans hnew', hafter⟩
    · rw [successes_cons_of_not_succeeds hsucceeds, Step.file_run_of_not_succeeds hsucceeds] at h ⊢
      rw [hfile, Step.file_run_of_not_succeeds hsucceeds]
      exact ih h

/-- **The file after any sequence of steps.** If nothing that the steps write out as it is holds the
end marker, the file is the first one if no step succeeds, and else what the documents and settings
of the last step that succeeds make of the first file. For a text that was made from a file can take
its place when another text is made, and to take a step once more changes nothing. -/
theorem fileAfter_spec {file : Option ByteArray} {steps : List Step}
    (h : ∀ step ∈ successes file steps, step.Unmarked) :
    (match (successes file steps).getLast? with
      | none => fileAfter file steps = file
      | some step => ∃ documents bytes previous text, step.documents = .ok documents ∧
          file = some bytes ∧ String.fromUTF8? bytes = some previous ∧
          renderFile documents previous step.settings = .ok text ∧
          fileAfter file steps = some text.toUTF8) ∧
    (∀ documents documents' previous settings settings' text, Unmarked documents settings →
      renderFile documents previous settings = .ok text →
      renderFile documents' text settings' = renderFile documents' previous settings') ∧
    ∀ (step : Step) file', (step.succeeds file' → step.Unmarked) →
      step.run (step.run file').file = step.run file' := by
  refine ⟨?_, ?_, ?_⟩
  · have hlast := fileAfter_eq h
    split
    · next hnone => rwa [hnone] at hlast
    · next step hsome =>
      rw [hsome] at hlast
      obtain ⟨text, hnew, hafter⟩ := hlast
      obtain ⟨documents, bytes, previous, hdocuments, hfile, hbytes, hrender⟩ :=
        newText_eq_ok_iff.1 hnew
      exact ⟨documents, bytes, previous, text, hdocuments, hfile, hbytes, hrender, hafter⟩
  · intro documents documents' previous settings settings' text
    exact renderFile_renderFile
  · intro step file'
    exact Step.run_run

/-! ### Three steps -/

/-- A step that asks a server which has these texts, and that has no tools to start. -/
def askingFor (texts : List String) : Step where
  settings := { source := ⟨"http://h", "http://h", "p", "b", "s", "t"⟩ }
  network := .server (texts.map fun text => .found text.toUTF8)
  formatter := .refused ""
  vcs := .refused ""

/-- A step that asks a server which has one sensor type with a label. -/
def askingForLabel (label : String) : Step :=
  askingFor ["\x7b\"1\":\x7b\"label\":\"" ++ label ++ "\",\"scales\":\x7b\x7d\x7d\x7d", "\x7b\x7d"]

/-- A file with nothing but the end marker. -/
def markedFile : Option ByteArray :=
  some endMarker.toUTF8

/-- Of three steps of which the second fails, the last one counts. -/
theorem fileAfter_three_steps :
    (∀ step ∈ successes markedFile [askingForLabel "A", askingFor [], askingForLabel "B"],
      step.Unmarked) ∧
    ∃ documents bytes previous text, (askingForLabel "B").documents = .ok documents ∧
      markedFile = some bytes ∧ String.fromUTF8? bytes = some previous ∧
      renderFile documents previous (askingForLabel "B").settings = .ok text ∧
      fileAfter markedFile [askingForLabel "A", askingFor [], askingForLabel "B"] =
        some text.toUTF8 := by
  have hfirst : (askingForLabel "A").Unmarked := by decide +kernel
  have hlast : (askingForLabel "B").Unmarked := by decide +kernel
  have hsucceeds : (askingForLabel "A").succeeds markedFile := by decide +kernel
  have hsucceeds' : (askingForLabel "B").succeeds markedFile := by decide +kernel
  have hfails : ¬ (askingFor []).documents.isOk := by decide +kernel
  have hsuccesses : successes markedFile [askingForLabel "A", askingFor [], askingForLabel "B"] =
      [askingForLabel "A", askingForLabel "B"] := by
    have hfails' : ¬ (askingFor []).succeeds ((askingForLabel "A").run markedFile).file :=
      Step.not_succeeds_of_documents hfails
    rw [successes_cons_of_succeeds hsucceeds, successes_cons_of_not_succeeds hfails',
      Step.file_run_of_not_succeeds hfails', successes_cons_of_succeeds]
    · rfl
    · exact (Step.succeeds_file_run_iff fun _ => hfirst).2 hsucceeds'
  have hunmarked : ∀ step ∈ successes markedFile
      [askingForLabel "A", askingFor [], askingForLabel "B"], step.Unmarked := by
    rw [hsuccesses]
    simp only [List.forall_mem_cons]
    exact ⟨hfirst, hlast, List.forall_mem_nil _⟩
  have hafter := (fileAfter_spec hunmarked).1
  rw [hsuccesses] at hafter
  exact ⟨hunmarked, hafter⟩

end SensorCatalog.Regeneration
