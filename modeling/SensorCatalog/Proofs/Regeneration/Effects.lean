import SensorCatalog.Regeneration.Run

/-!
# What a run does, in order

A run tells what it leaves behind, but not in which order it did what it did. Here it is taken apart
into actions. Each one starts at the stage that the one before it has reached, does something to the
world, and may fail; what was done before a failure stays done. The actions of a run, taken one
after another, leave what the run leaves (`perform_generate`), and beside that they leave a record
of everything that was done, in order.

## Main definitions

* `Regeneration.Effect`, `Regeneration.Stage`: what can be done to the world, and how far a run is.
* `Regeneration.Action`, `Regeneration.Action.perform`: the parts of a run.
* `Regeneration.generate`: all of a run.
* `Regeneration.effects`: what a run does, in order.

## Main results

* `Regeneration.perform_generate`: the actions of a run leave what the run leaves.
-/

namespace SensorCatalog.Regeneration

/-- Something that is done to the world. -/
inductive Effect where
  /-- A request arrives. -/
  | request (line : String)
  /-- The constants file is opened for writing and given some content. -/
  | write (content : ByteArray)
  /-- A tool is started. -/
  | start (invocation : Check.Invocation)

/-- How far a run is. -/
structure Stage where
  /-- The URLs that have been asked for. -/
  asked : List Url
  /-- The constants file as it is now, if there is one. -/
  file : Option ByteArray
  /-- What has been done, in order. -/
  effects : List Effect

/-- A part of a run. A failure ends the run at the stage that it has reached. -/
abbrev Action := ExceptT Failure (StateM Stage)

namespace Action

variable {α β : Type}

/-- What comes of an action, and the stage that it leads to. -/
def perform (x : Action α) (stage : Stage) : Except Failure α × Stage :=
  x.run.run stage

theorem perform_pure (a : α) (stage : Stage) :
    (pure a : Action α).perform stage = (.ok a, stage) :=
  rfl

theorem perform_ofExcept (x : Except Failure α) (stage : Stage) :
    (MonadExcept.ofExcept x : Action α).perform stage = (x, stage) := by
  cases x <;> rfl

/-- What follows an action starts at the stage that it has reached, and not at all if it fails. -/
theorem perform_bind (x : Action α) (f : α → Action β) (stage : Stage) :
    (x >>= f).perform stage =
      match x.perform stage with
      | (.ok a, stage') => (f a).perform stage'
      | (.error failure, stage') => (.error failure, stage') := by
  have hbind : (x >>= f).perform stage =
      (ExceptT.bindCont f (x.perform stage).1).run (x.perform stage).2 := rfl
  rw [hbind]
  rcases x.perform stage with ⟨failure | a, stage'⟩ <;> rfl

theorem perform_bind_of_ok {x : Action α} {f : α → Action β} {stage stage' : Stage} {a : α}
    (h : x.perform stage = (.ok a, stage')) :
    (x >>= f).perform stage = (f a).perform stage' := by
  rw [perform_bind, h]

theorem perform_bind_of_error {x : Action α} {f : α → Action β} {stage stage' : Stage}
    {failure : Failure} (h : x.perform stage = (.error failure, stage')) :
    (x >>= f).perform stage = (.error failure, stage') := by
  rw [perform_bind, h]

end Action

/-! ### The actions of a run -/

/-- Asks for a URL. -/
def ask (network : Network) (timeout : Nat) (url : Url) : Action (Except String String) :=
  modifyGet fun stage => ((network.get timeout stage.asked url).exchange.text, { stage with
    asked := stage.asked ++ [url]
    effects := stage.effects ++ (network.get timeout stage.asked url).requests.map .request })

/-- Fetches the document at a URL. -/
def fetchText (network : Network) (timeout : Nat) (url : Except Url.Fault Url) : Action String := do
  let url ← MonadExcept.ofExcept (url.mapError Failure.url)
  let text ← ask network timeout url
  MonadExcept.ofExcept ((text.map Document.withoutComments).mapError (.request url.text))

/-- Fetches both documents. -/
def fetchDocuments (network : Network) (source : Source) (timeout : Nat) : Action Documents := do
  let sensorTypes ← fetchText network timeout source.sensorTypesUrl
  let scales ← fetchText network timeout source.scalesUrl
  return ⟨sensorTypes, scales⟩

/-- Reads the file at a path. -/
def readFile (path : String) (fault? : Option String) : Action String := do
  MonadExcept.ofExcept (readPrevious path (← get).file fault?)

/-- Writes the file at a path. What it has been given stays there, also if writing ends early. -/
def writeFile (path : String) (writing : Disk.Writing) (content : ByteArray) : Action Unit := do
  modify fun stage => { stage with
    file := (writing.written? content).or stage.file
    effects := stage.effects ++ (writing.written? content).toList.map .write }
  match writing.fault? with
  | some reason => throw (.write path reason)
  | none => return ()

/-- Fetches the documents, and reads, renders and writes the file. -/
def generateFile (settings : Settings) (network : Network) (disk : Disk) : Action Unit := do
  let documents ← fetchDocuments network settings.source settings.fetchTimeout
  let previous ← readFile settings.destination disk.readFault?
  let text ← MonadExcept.ofExcept (renderFile documents previous settings)
  writeFile settings.destination disk.writing text.toUTF8

/-- Takes a step after the file is written, if it is to be taken; `starts` are the starts of its
tool, and `outcome` is how it ends. -/
def takeStep (wanted : Bool) (starts : List Check.Invocation) (outcome : Check.StepOutcome) :
    Action Check.StepOutcome := do
  if wanted then
    modify fun stage => { stage with effects := stage.effects ++ starts.map .start }
    return outcome
  else return .skipped

/-- Generates the file and takes the steps after that, the formatter first. -/
def generate (settings : Settings) (network : Network) (disk : Disk)
    (formatter vcs : Check.Tool) : Action Check.Report := do
  generateFile settings network disk
  let formatted ← takeStep settings.runFormatter
    (Check.formatStarts formatter settings.destination) (Check.format formatter)
  let checked ← takeStep settings.runRepositoryCheck
    (Check.repositoryStarts vcs (Check.directoryOf settings.destination)) (Check.repository vcs)
  return ⟨formatted, checked⟩

/-- What comes of the actions of a run, and the stage that they lead to. -/
def performed (settings : Settings) (world : World) : Except Failure Check.Report × Stage :=
  (generate settings world.network world.disk world.formatterTool world.vcsTool).perform
    ⟨[], world.file, []⟩

/-- What a run does, in order. -/
def effects (settings : Settings) (world : World) : List Effect :=
  (performed settings world).2.effects

/-! ### What the actions leave -/

/-- The stage that is reached when documents have been asked for and nothing else has been done. -/
def Fetched.stage {α : Type} (fetched : Fetched α) (file : Option ByteArray) : Stage where
  asked := fetched.calls.map Network.Call.url
  file
  effects := (fetched.calls.flatMap Network.Call.requests).map .request

section

variable {α : Type} {network : Network} {timeout : Nat} {stage : Stage}

/-- An action fetches: it does nothing but ask for URLs. -/
def Fetches (x : Action α) (stage : Stage) (fetched : Fetched α) : Prop :=
  x.perform stage = (fetched.result, { stage with
    asked := stage.asked ++ fetched.calls.map Network.Call.url
    effects := stage.effects ++ (fetched.calls.flatMap Network.Call.requests).map .request })

theorem perform_fetchText_error (fault : Url.Fault) (stage : Stage) :
    (fetchText network timeout (.error fault)).perform stage = (.error (.url fault), stage) :=
  rfl

theorem perform_fetchText_ok (url : Url) (stage : Stage) :
    (fetchText network timeout (.ok url)).perform stage =
      (((network.get timeout stage.asked url).exchange.text.map
          Document.withoutComments).mapError (.request url.text),
        { stage with
          asked := stage.asked ++ [url]
          effects := stage.effects ++
            (network.get timeout stage.asked url).requests.map .request }) := by
  have hask : (ask network timeout url).perform stage =
      (.ok (network.get timeout stage.asked url).exchange.text, { stage with
        asked := stage.asked ++ [url]
        effects := stage.effects ++
          (network.get timeout stage.asked url).requests.map .request }) := rfl
  have hurl : (MonadExcept.ofExcept ((.ok url : Except Url.Fault Url).mapError Failure.url) :
      Action Url).perform stage = (.ok url, stage) := rfl
  rw [fetchText, Action.perform_bind_of_ok hurl, Action.perform_bind_of_ok hask,
    Action.perform_ofExcept]

/-- Fetching a document and going on is fetching, if going on is. -/
theorem fetches_fetchText_bind {f : String → Action α} {next : List Url → String → Fetched α}
    (h : ∀ text stage, Fetches (f text) stage (next stage.asked text))
    (url : Except Url.Fault Url) :
    Fetches (fetchText network timeout url >>= f) stage
      (fetchThen network timeout stage.asked url next) := by
  cases url with
  | error fault =>
    rw [Fetches, Action.perform_bind_of_error (perform_fetchText_error fault stage)]
    simp [fetchThen]
  | ok url =>
    have hfetch : (fetchText network timeout (.ok url)).perform stage = _ :=
      perform_fetchText_ok url stage
    cases htext : (network.get timeout stage.asked url).exchange.text with
    | error reason =>
      rw [htext] at hfetch
      rw [Fetches, Action.perform_bind_of_error hfetch]
      simp [fetchThen, htext]
    | ok text =>
      rw [htext] at hfetch
      rw [Fetches, Action.perform_bind_of_ok hfetch, h]
      simp [fetchThen, htext]

theorem perform_fetchDocuments (source : Source) (file : Option ByteArray) :
    (fetchDocuments network source timeout).perform ⟨[], file, []⟩ =
      ((fetch network source timeout).result, (fetch network source timeout).stage file) := by
  have hfetches : Fetches (fetchDocuments network source timeout) ⟨[], file, []⟩
      (fetch network source timeout) := by
    refine fetches_fetchText_bind (fun sensorTypes stage => ?_) source.sensorTypesUrl
    refine fetches_fetchText_bind (fun scales stage => ?_) source.scalesUrl
    rw [Fetches, Action.perform_pure]
    simp
  exact hfetches

theorem perform_readFile (path : String) (fault? : Option String) (stage : Stage) :
    (readFile path fault?).perform stage = (readPrevious path stage.file fault?, stage) :=
  Action.perform_ofExcept (readPrevious path stage.file fault?) stage

theorem perform_writeFile (path : String) (writing : Disk.Writing) (content : ByteArray)
    (stage : Stage) :
    (writeFile path writing content).perform stage =
      (match writing.fault? with
        | some reason => .error (.write path reason)
        | none => .ok (),
        { stage with
          file := (writing.written? content).or stage.file
          effects := stage.effects ++ (writing.written? content).toList.map .write }) := by
  cases writing <;> rfl

/-- Generating the file: everything else that can fail comes before it is written. -/
theorem perform_generateFile_eq (settings : Settings) (world : World) :
    (generateFile settings world.network world.disk).perform ⟨[], world.file, []⟩ =
      match newTextIn settings world with
      | .error failure => (.error failure, (fetchedIn settings world).stage world.file)
      | .ok text =>
        (writeFile settings.destination world.disk.writing text.toUTF8).perform
          ((fetchedIn settings world).stage world.file) := by
  have hfetch : (fetchDocuments world.network settings.source settings.fetchTimeout).perform
      ⟨[], world.file, []⟩ =
        ((fetchedIn settings world).result, (fetchedIn settings world).stage world.file) :=
    perform_fetchDocuments settings.source world.file
  simp only [generateFile, Action.perform_bind, hfetch, perform_readFile, Action.perform_ofExcept,
    newTextIn, newText]
  cases (fetchedIn settings world).result with
  | error failure => rfl
  | ok documents =>
    simp only [Fetched.stage]
    cases readPrevious settings.destination world.file world.disk.readFault? with
    | error failure => rfl
    | ok previous =>
      cases hrender : renderFile documents previous settings <;> simp [bind, Except.bind, hrender]

theorem perform_takeStep (wanted : Bool) (starts : List Check.Invocation)
    (outcome : Check.StepOutcome) (stage : Stage) :
    (takeStep wanted starts outcome).perform stage =
      (.ok (if wanted then outcome else .skipped), { stage with
        effects := stage.effects ++ (if wanted then starts else []).map .start }) := by
  cases wanted with
  | true => rfl
  | false =>
    rw [if_neg Bool.false_ne_true, if_neg Bool.false_ne_true, List.map_nil, List.append_nil]
    rfl

end

/-! ### What a run leaves -/

/-- **The actions of a run** leave what the run leaves. The requests are sent first, then the file
is written, and then the tools are started. -/
theorem perform_generate (settings : Settings) (world : World) :
    (performed settings world).1 = (run settings world).result ∧
      (performed settings world).2.file = (run settings world).file ∧
      effects settings world = (run settings world).requests.map .request ++
        (run settings world).written.toList.map .write ++
        (run settings world).started.map .start := by
  have hfile := perform_generateFile_eq settings world
  rw [effects, performed, generate]
  cases hnew : newTextIn settings world with
  | error failure =>
    simp only [hnew] at hfile
    rw [run_of_error hnew, Action.perform_bind_of_error hfile]
    simp [Run.requests, Fetched.stage]
  | ok text =>
    simp only [hnew, perform_writeFile] at hfile
    cases hfault : world.disk.writing.fault? with
    | some reason =>
      simp only [hfault] at hfile
      rw [run_of_fault hnew hfault, Action.perform_bind_of_error hfile]
      simp [Run.requests, Fetched.stage]
    | none =>
      have hdone := Disk.Writing.fault?_eq_none_iff.1 hfault
      simp only [hdone] at hfile
      rw [run_of_done hnew hdone, Action.perform_bind_of_ok hfile,
        Action.perform_bind_of_ok (perform_takeStep settings.runFormatter _ _ _),
        Action.perform_bind_of_ok (perform_takeStep settings.runRepositoryCheck _ _ _),
        Action.perform_pure]
      simp [Run.requests, Fetched.stage, Disk.Writing.written?, report, started]

end SensorCatalog.Regeneration
