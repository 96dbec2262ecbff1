import SensorCatalog.Proofs.Regeneration.Sequence
import SensorCatalog.Proofs.Text.Utf8

/-!
# The verdict of a run

A run that has written the file passes only if the version control has nothing to say. What counts
as saying nothing is narrow (`Check.FindsNoChange`): the tool was started, ended with status zero
and wrote blanks in proper UTF-8. Whatever else becomes of it, the run fails, so a check that could
not be made is never taken for one that found no change. The formatter has no part in this.

## Main definitions

* `Check.FindsNoChange`: the version control was asked and has nothing to say.

## Main results

* `Check.repository_eq_success_iff`, `Check.repository_eq_success_or_failed`: the step of the
  version control.
* `Regeneration.failsRun_eq_false_iff`: the verdict of a run.
-/

namespace SensorCatalog

namespace Text

/-- Only blanks are trimmed away altogether. -/
theorem trim_eq_nil_iff {cs : List Char} : trim cs = [] ↔ ∀ c ∈ cs, isBlank c := by
  rw [trim, trimEnd, dropTrailing_eq_nil_iff, trimStart]
  constructor
  · intro h
    have hnil : cs.dropWhile isBlank = [] := by
      cases hcs : cs.dropWhile isBlank with
      | nil => rfl
      | cons first rest =>
        have hfirst : first ∈ (cs.dropWhile isBlank).head? := by rw [hcs]; rfl
        exact absurd (h first (hcs ▸ List.mem_cons_self)) (not_of_mem_head?_dropWhile hfirst)
    exact List.dropWhile_eq_nil_iff.1 hnil
  · exact fun h c hc => h c ((List.dropWhile_sublist isBlank).subset hc)

end Text

namespace Check

/-- A program was started, ended well and wrote nothing but blanks, which is how the version control
says that nothing has changed. What it wrote must be text: broken bytes are no blanks. -/
def FindsNoChange (launch : Launch) : Prop :=
  ∃ output text, launch = .finished output ∧ output.status = .exited 0 ∧
    String.fromUTF8? output.stdout = some text ∧ ∀ c ∈ text.toList, Text.isBlank c

theorem not_isBlank_replacement : ¬ Text.isBlank Utf8.replacement := by
  decide

theorem ExitStatus.isSuccess_iff {status : ExitStatus} : status.isSuccess ↔ status = .exited 0 := by
  cases status <;> simp [isSuccess]

/-- What a program wrote is all trimmed away exactly if it is a text of blanks. -/
theorem trim_written_eq_nil_iff (bytes : ByteArray) :
    Text.trim (written bytes) = [] ↔
      ∃ text, String.fromUTF8? bytes = some text ∧ ∀ c ∈ text.toList, Text.isBlank c :=
  Text.trim_eq_nil_iff.trans (Utf8.forall_mem_decodeLossy_iff not_isBlank_replacement bytes)

theorem repository_eq_success_iff {vcs : Tool} :
    repository vcs = .success ↔ FindsNoChange vcs.launch := by
  rw [repository, FindsNoChange]
  cases vcs.launch with
  | refused reason => simp
  | finished output =>
    by_cases hstatus : output.status = .exited 0
    · have htrim := trim_written_eq_nil_iff output.stdout
      by_cases hblank : Text.trim (written output.stdout) = []
      all_goals simpa [ExitStatus.isSuccess_iff, hstatus, hblank] using htrim
    · simp [ExitStatus.isSuccess_iff, hstatus]

/-- A check that does not pass fails, also if it could not be made. -/
theorem repository_eq_success_or_failed (vcs : Tool) :
    repository vcs = .success ∨ ∃ detail, repository vcs = .failed detail := by
  rw [repository]
  cases vcs.launch with
  | refused reason => exact .inr ⟨_, rfl⟩
  | finished output =>
    dsimp only
    cases output.status.isSuccess with
    | false => exact .inr ⟨_, rfl⟩
    | true =>
      cases (Text.trim (written output.stdout)).isEmpty with
      | true => exact .inl rfl
      | false => exact .inr ⟨_, rfl⟩

theorem isFatal_repository_eq_false_iff {vcs : Tool} :
    (repository vcs).isFatal = false ↔ FindsNoChange vcs.launch := by
  rw [← repository_eq_success_iff]
  obtain h | ⟨detail, h⟩ := repository_eq_success_or_failed vcs
  all_goals rw [h]; simp [StepOutcome.isFatal]

theorem StepOutcome.isFatal_iff {outcome : StepOutcome} :
    outcome.isFatal ↔ ∃ detail, outcome = .failed detail := by
  cases outcome <;> simp [isFatal]

theorem format_ne_failed (formatter : Tool) (detail : String) :
    format formatter ≠ .failed detail := by
  rw [format]
  repeat' split
  all_goals simp

end Check

namespace Regeneration

variable {settings settings' : Settings} {world world' : World} {report report' : Check.Report}

theorem failsRun_report_eq_false_iff (settings : Settings) (world : World) :
    (Regeneration.report settings world).failsRun = false ↔
      settings.runRepositoryCheck = false ∨ Check.FindsNoChange world.vcs := by
  rw [Check.Report.failsRun, Regeneration.report]
  cases settings.runRepositoryCheck with
  | false => simp [Check.StepOutcome.isFatal]
  | true => exact Check.isFatal_repository_eq_false_iff.trans (or_iff_right (by decide)).symm

theorem formatter_report_ne_failed (settings : Settings) (world : World) (detail : String) :
    (Regeneration.report settings world).formatter ≠ .failed detail := by
  rw [Regeneration.report]
  cases settings.runFormatter with
  | false => simp
  | true => exact Check.format_ne_failed world.formatterTool detail

/-- What is reported of the version control is made of nothing else. -/
theorem repository_report_congr
    (hcheck : settings'.runRepositoryCheck = settings.runRepositoryCheck)
    (hvcs : world'.vcs = world.vcs) : (Regeneration.report settings' world').repository =
      (Regeneration.report settings world).repository := by
  simp only [Regeneration.report, World.vcsTool, hcheck, hvcs]

theorem eq_report_of_result_run (h : (run settings world).result = .ok report) :
    report = Regeneration.report settings world :=
  (result_run_eq_ok_iff.1 h).2.2.symm

/-- The tools have no part in whether there is a report, since they are started at the end. -/
theorem result_run_eq_ok_of_tools (h : (run settings world).result = .ok report)
    (formatter vcs : Check.Launch) : (run settings { world with formatter, vcs }).result =
      .ok (Regeneration.report settings { world with formatter, vcs }) := by
  obtain ⟨hnew, hdone, -⟩ := result_run_eq_ok_iff.1 h
  exact result_run_eq_ok_iff.2 ⟨hnew, hdone, rfl⟩

/-- **The verdict of a run** that has written the file is that of the version control, and it is
never passed by mistake: the run passes exactly if the check is not wanted or finds no change, and
otherwise the step of the version control has failed. The step of the formatter never fails. With
another formatter there is a report too, and all reports with the same wish for the check and the
same version control say the same about it. -/
theorem failsRun_eq_false_iff (h : (run settings world).result = .ok report) :
    (report.failsRun = false ↔
        settings.runRepositoryCheck = false ∨ Check.FindsNoChange world.vcs) ∧
      (¬ (settings.runRepositoryCheck = false ∨ Check.FindsNoChange world.vcs) →
        ∃ detail, report.repository = .failed detail) ∧
      (∀ detail, report.formatter ≠ .failed detail) ∧
      (∀ formatter, ∃ report', (run settings { world with formatter }).result = .ok report' ∧
        report'.repository = report.repository ∧ report'.failsRun = report.failsRun) ∧
      ∀ settings' world' report', (run settings' world').result = .ok report' →
        settings'.runRepositoryCheck = settings.runRepositoryCheck → world'.vcs = world.vcs →
        report'.repository = report.repository ∧ report'.failsRun = report.failsRun := by
  have hverdict := failsRun_report_eq_false_iff settings world
  have hsame {settings' world' report'} (h' : (run settings' world').result = .ok report')
      (hcheck : settings'.runRepositoryCheck = settings.runRepositoryCheck)
      (hvcs : world'.vcs = world.vcs) :
      report'.repository = report.repository ∧ report'.failsRun = report.failsRun := by
    have hrepository : report'.repository = report.repository := by
      rw [eq_report_of_result_run h, eq_report_of_result_run h']
      exact repository_report_congr hcheck hvcs
    exact ⟨hrepository, congrArg Check.StepOutcome.isFatal hrepository⟩
  rw [← eq_report_of_result_run h] at hverdict
  refine ⟨hverdict, fun hnot => ?_, ?_, fun formatter => ?_, fun _ _ _ => hsame⟩
  · rw [← hverdict, Bool.not_eq_false] at hnot
    exact Check.StepOutcome.isFatal_iff.1 hnot
  · rw [eq_report_of_result_run h]
    exact formatter_report_ne_failed settings world
  · have hrun := result_run_eq_ok_of_tools h formatter world.vcs
    exact ⟨_, hrun, hsame hrun rfl rfl⟩

/-- A world in which one sensor type is served, the formatter is missing and the version control
ends well after writing some bytes. -/
def worldOfChanges (bytes : List UInt8) : World where
  network := (askingForLabel "A").network
  formatter := .refused Check.notFound
  vcs := .finished ⟨.exited 0, bytes.toByteArray, .empty⟩
  file := markedFile

/-- A blank outside ASCII is a blank, and half of it is not. -/
theorem failsRun_half_of_blank :
    (∃ report,
      (run (askingFor []).settings (worldOfChanges [0x0A, 0xC2, 0xA0])).result = .ok report ∧
      report.failsRun = false) ∧
    ∃ report detail,
      (run (askingFor []).settings (worldOfChanges [0x0A, 0xC2])).result = .ok report ∧
      report.repository = .failed detail := by
  have hblank : (run (askingFor []).settings (worldOfChanges [0x0A, 0xC2, 0xA0])).result.isOk := by
    decide +kernel
  have hhalf : (run (askingFor []).settings (worldOfChanges [0x0A, 0xC2])).result.isOk := by
    decide +kernel
  obtain ⟨report, h⟩ := Fallible.exists_eq_ok_of_isOk hblank
  obtain ⟨report', h'⟩ := Fallible.exists_eq_ok_of_isOk hhalf
  obtain ⟨hverdict, -⟩ := failsRun_eq_false_iff h
  obtain ⟨-, hfailed, -⟩ := failsRun_eq_false_iff h'
  have hbroken : String.fromUTF8? [0x0A, 0xC2].toByteArray = none := by decide +kernel
  obtain ⟨detail, hdetail⟩ := hfailed (by
    rintro (hcheck | ⟨output, text, hlaunch, -, htext, -⟩)
    · exact absurd hcheck (by decide)
    · rw [← Check.Launch.finished.inj hlaunch, hbroken] at htext
      contradiction)
  refine ⟨⟨report, h,
    hverdict.2 (.inr ⟨_, "\n\u00A0", rfl, rfl, ?_, List.all_eq_true.1 (by decide)⟩)⟩,
    report', detail, h', hdetail⟩
  decide +kernel

end Regeneration

end SensorCatalog
