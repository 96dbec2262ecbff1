import SensorCatalog.Check.Step
import SensorCatalog.Disk
import SensorCatalog.Document.Comment
import SensorCatalog.Network
import SensorCatalog.Regeneration.File

/-!
# A run of the regeneration

The documents are fetched, the file is read, rendered anew and written, and then looked at by the
tools. Whatever fails before the file is written leaves it as it was, and no tool is started unless
all of the file is written.

## Main definitions

* `Regeneration.World`: what a run meets.
* `Regeneration.fetch`: fetching the documents.
* `Regeneration.Run`, `Regeneration.run`: what comes of a run.
-/

namespace SensorCatalog.Regeneration

/-! ### Fetching -/

/-- Documents that were asked for, and how. -/
structure Fetched (α : Type) where
  /-- What was asked for, or why it cannot be had. -/
  result : Except Failure α
  /-- The URLs that were asked for, in order, and what came of each. -/
  calls : List Network.Call

/-- Fetches the document at a URL, after other URLs have been asked for, and goes on with all the
URLs that have been asked for and the text of the document. -/
def fetchThen {α : Type} (network : Network) (timeout : Nat) (asked : List Url)
    (url : Except Url.Fault Url) (next : List Url → String → Fetched α) : Fetched α :=
  match url with
  | .error fault => ⟨.error (.url fault), []⟩
  | .ok url =>
    let call := network.get timeout asked url
    match call.exchange.text with
    | .error reason => ⟨.error (.request url.text reason), [call]⟩
    | .ok text =>
      let fetched := next (asked ++ [url]) (Document.withoutComments text)
      { fetched with calls := call :: fetched.calls }

/-- Fetches the documents, the sensor types first. -/
def fetch (network : Network) (source : Source) (timeout : Nat) : Fetched Documents :=
  fetchThen network timeout [] source.sensorTypesUrl fun asked sensorTypes =>
    fetchThen network timeout asked source.scalesUrl fun _ scales =>
      ⟨.ok ⟨sensorTypes, scales⟩, []⟩

/-! ### The file -/

/-- Why a file that is not there cannot be read. -/
def noFile : String := "No such file or directory (os error 2)"

/-- Why a file that holds other bytes than text cannot be read. -/
def noText : String := "stream did not contain valid UTF-8"

/-- The text of the file at a path. A disk can have reasons of its own not to let it be read. -/
def readPrevious (path : String) (file : Option ByteArray) (fault? : Option String := none) :
    Except Failure String :=
  match fault?, file with
  | some reason, _ => .error (.readPrevious path reason)
  | none, none => .error (.readPrevious path noFile)
  | none, some bytes =>
    match String.fromUTF8? bytes with
    | some text => .ok text
    | none => .error (.readPrevious path noText)

/-- The new text of the file. -/
def newText (settings : Settings) (fetched : Except Failure Documents) (file : Option ByteArray)
    (fault? : Option String := none) : Except Failure String := do
  let documents ← fetched
  let previous ← readPrevious settings.destination file fault?
  renderFile documents previous settings

/-! ### Runs -/

/-- What a run meets. -/
structure World where
  /-- What comes of asking for URLs. -/
  network : Network
  /-- What comes of starting the formatter. -/
  formatter : Check.Launch
  /-- What comes of starting the version control. -/
  vcs : Check.Launch
  /-- The constants file, if there is one. -/
  file : Option ByteArray
  /-- What comes of reading and of writing the constants file. -/
  disk : Disk := {}

/-- The formatter that a run meets. -/
def World.formatterTool (world : World) : Check.Tool :=
  ⟨Check.formatterName, world.formatter⟩

/-- The version control that a run meets. -/
def World.vcsTool (world : World) : Check.Tool :=
  ⟨Check.vcsName, world.vcs⟩

/-- What comes of a run. -/
structure Run where
  /-- How the steps after the file was written ended, or why it was not written. -/
  result : Except Failure Check.Report
  /-- The constants file afterwards. -/
  file : Option ByteArray
  /-- What the constants file was given, if it was opened for writing. -/
  written : Option ByteArray
  /-- The URLs that were asked for, in order, and what came of each. -/
  calls : List Network.Call
  /-- The tools that were started, in order. -/
  started : List Check.Invocation

/-- The lines of the requests that arrived during a run, in order. -/
def Run.requests (run : Run) : List String :=
  run.calls.flatMap Network.Call.requests

/-- How the steps after the file is written end. -/
def report (settings : Settings) (world : World) : Check.Report where
  formatter := if settings.runFormatter then Check.format world.formatterTool else .skipped
  repository := if settings.runRepositoryCheck then Check.repository world.vcsTool else .skipped

/-- The tools that are started after the file is written. -/
def started (settings : Settings) (world : World) : List Check.Invocation :=
  (if settings.runFormatter then
    Check.formatStarts world.formatterTool settings.destination else []) ++
  (if settings.runRepositoryCheck then
    Check.repositoryStarts world.vcsTool (Check.directoryOf settings.destination) else [])

/-- What a run fetches. -/
def fetchedIn (settings : Settings) (world : World) : Fetched Documents :=
  fetch world.network settings.source settings.fetchTimeout

/-- The new text of the file in a run. -/
def newTextIn (settings : Settings) (world : World) : Except Failure String :=
  newText settings (fetchedIn settings world).result world.file world.disk.readFault?

/-- Regenerates the constants file. -/
def run (settings : Settings) (world : World) : Run :=
  let calls := (fetchedIn settings world).calls
  match newTextIn settings world with
  | .error failure =>
    { result := .error failure, file := world.file, written := none, calls, started := [] }
  | .ok text =>
    let written := world.disk.writing.written? text.toUTF8
    let file := written.or world.file
    match world.disk.writing.fault? with
    | some reason =>
      { result := .error (.write settings.destination reason), file, written, calls, started := [] }
    | none =>
      { result := .ok (report settings world), file, written, calls,
        started := started settings world }

section

variable {settings : Settings} {world : World}

theorem run_of_error {failure : Failure} (h : newTextIn settings world = .error failure) :
    run settings world = {
      result := .error failure
      file := world.file
      written := none
      calls := (fetchedIn settings world).calls
      started := [] } := by
  rw [run, h]

theorem run_of_fault {text reason : String} (h : newTextIn settings world = .ok text)
    (hfault : world.disk.writing.fault? = some reason) :
    run settings world = {
      result := .error (.write settings.destination reason)
      file := (world.disk.writing.written? text.toUTF8).or world.file
      written := world.disk.writing.written? text.toUTF8
      calls := (fetchedIn settings world).calls
      started := [] } := by
  simp only [run, h, hfault]

theorem run_of_done {text : String} (h : newTextIn settings world = .ok text)
    (hdone : world.disk.writing = .done) :
    run settings world = {
      result := .ok (report settings world)
      file := some text.toUTF8
      written := some text.toUTF8
      calls := (fetchedIn settings world).calls
      started := started settings world } := by
  simp only [run, h, hdone]
  rfl

/-- There is a report exactly if there is a new text and all of it is written. -/
theorem result_run_eq_ok_iff {r : Check.Report} :
    (run settings world).result = .ok r ↔
      (∃ text, newTextIn settings world = .ok text) ∧ world.disk.writing = .done ∧
        report settings world = r := by
  cases hnew : newTextIn settings world with
  | error failure => simp [run_of_error hnew]
  | ok text =>
    rw [← Disk.Writing.fault?_eq_none_iff]
    cases hfault : world.disk.writing.fault? with
    | some reason => simp [run_of_fault hnew hfault]
    | none => simp [run_of_done hnew (Disk.Writing.fault?_eq_none_iff.1 hfault)]

end

end SensorCatalog.Regeneration
