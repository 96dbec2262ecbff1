import SensorCatalog.Check.Directory
import SensorCatalog.Check.Tool
import SensorCatalog.Text.Blank
import SensorCatalog.Text.Utf8

/-!
# Steps after the file is written

Two tools look at the written file. The formatter may be missing or fail; the file is good without
it. The version control must say that nothing has changed, and a check that cannot be made counts
as one that found a change.

## Main definitions

* `Check.StepOutcome`: how a step ended.
* `Check.formatterName`, `Check.format`: the formatter, and its step.
* `Check.vcsName`, `Check.repository`: the version control, and its step.
* `Check.Report`, `Check.Report.failsRun`: both steps, and their verdict.
-/

namespace SensorCatalog.Check

/-- How a step ended. -/
inductive StepOutcome where
  /-- The step was made and found nothing wrong. -/
  | success
  /-- The step was not made, or its failure does not matter. -/
  | skipped
  /-- The step found something wrong or could not be made, as the detail says. -/
  | failed (detail : String)
  deriving DecidableEq

/-- The step makes the run fail. -/
def StepOutcome.isFatal : StepOutcome → Bool
  | .failed _ => true
  | _ => false

/-- The text of what a program wrote. -/
def written (bytes : ByteArray) : List Char :=
  (Utf8.decodeLossy Utf8.replacement bytes).toList

/-! ### The formatter -/

/-- The name of the formatter. -/
def formatterName : String := "rustfmt"

/-- The edition of the language that the formatter is told. -/
def edition : String := "2021"

/-- The starts of the formatter on a file. -/
def formatStarts (formatter : Tool) (file : String) : List Invocation :=
  formatter.started ["--edition", edition, file] (directoryOf file)

/-- The step of the formatter. -/
def format (formatter : Tool) : StepOutcome :=
  match formatter.launch with
  | .finished output => if output.status.isSuccess then .success else .skipped
  | .refused _ => .skipped

/-! ### The version control -/

/-- The name of the version control. -/
def vcsName : String := "git"

/-- The arguments that ask for the changed files. -/
def changeArguments : List String := ["diff", "--stat"]

/-- The starts of the version control in a directory. -/
def repositoryStarts (vcs : Tool) (directory : String) : List Invocation :=
  vcs.started changeArguments directory

/-- The command of the version control as it is said. -/
def repositoryCommand (vcs : Tool) : String :=
  "`" ++ " ".intercalate (vcs.name :: changeArguments) ++ "`"

/-- The step of the version control: it lists the changed files, so it must end well and write
nothing but blanks. -/
def repository (vcs : Tool) : StepOutcome :=
  match vcs.launch with
  | .finished output =>
    if output.status.isSuccess then
      let changes := written output.stdout
      if (Text.trim changes).isEmpty then .success
      else .failed (String.ofList (Text.trimEnd changes))
    else
      .failed (repositoryCommand vcs ++ " exited with " ++ output.status.message ++ ": " ++
        String.ofList (Text.trim (written output.stderr)))
  | .refused reason => .failed ("could not run " ++ repositoryCommand vcs ++ " on repo: " ++ reason)

/-! ### Both steps -/

/-- How the steps after the file is written ended. -/
structure Report where
  /-- The step of the formatter. -/
  formatter : StepOutcome
  /-- The step of the version control. -/
  repository : StepOutcome
  deriving DecidableEq

/-- The run fails although the file was written. -/
def Report.failsRun (report : Report) : Bool :=
  report.repository.isFatal

end SensorCatalog.Check
