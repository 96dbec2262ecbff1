import SensorCatalog.Proofs.Regeneration.Effects
import SensorCatalog.Proofs.Regeneration.Sequence

/-!
# A run does all or nothing

A run is ready to write the file exactly if both documents are answered well, they make a catalogue,
and the file is a text with an end marker. If it is not, it leaves the file as it was and starts no
tool, and all that it has done is to ask for documents, the last of which is the first one that was
not answered well. If it is, all depends on the disk: the run succeeds exactly if all of the file is
written, and only then tools are started. A disk on which the file cannot even be opened leaves it
as it was, too. One on which writing breaks off does not; nothing can be done about that then.

## Main definitions

* `Network.Answers`: what a network answers.
* `Network.Exchange.redirects`: where redirects lead.
* `Regeneration.IsReady`: nothing stands in the way of a run until it writes the file.
* `Regeneration.Asked`: the calls for documents that are fetched one after another.
* `Regeneration.LeavesAll`, `Regeneration.BreaksOff`, `Regeneration.Completes`: what a run has done
  that fails before the file is written, while it is written, or not at all.

## Main results

* `Network.answers_server_iff`: what a server with a list of answers answers.
* `Regeneration.run_eq_ok_iff_isReady`: when a run succeeds, and what it has done.
-/

namespace SensorCatalog

/-! ### Answers of a network -/

namespace Network

/-- A request for a URL arrives, after other URLs have been asked for. It is answered in time, where
these redirects lead. -/
def Answers (network : Network) (timeout : Nat) (asked : List Url) (url : Url)
    (redirects : List String) (response : Response) : Prop :=
  url.objection? = none ∧ network.exchange timeout asked url = .arrived redirects (.ok response)

theorem Response.text_eq_ok_iff {response : Response} {text : String} :
    response.text = .ok text ↔ response.status < 400 ∧ response.content = text := by
  rw [Response.text]
  split
  · next herror => simp [Nat.not_lt.2 herror]
  · next hgood => simp [Nat.lt_of_not_le hgood]

/-- The targets to which redirects lead. -/
def Exchange.redirects : Exchange → List String
  | .lost _ => []
  | .arrived redirects _ => redirects

theorem Exchange.text_eq_ok_iff {exchange : Exchange} {text : String} :
    exchange.text = .ok text ↔ ∃ redirects response,
      exchange = .arrived redirects (.ok response) ∧ response.status < 400 ∧
        response.content = text := by
  cases exchange with
  | lost reason => simp [Exchange.text]
  | arrived redirects answer =>
    cases answer with
    | error reason => simp [Exchange.text]
    | ok response => simp [Exchange.text, Response.text_eq_ok_iff]

/-- Without redirects no other requests are sent than the one for the URL. -/
theorem Call.requests_prefix {call : Call} (h : call.exchange.redirects = []) :
    call.requests <+: [requestLine call.url.target] := by
  rw [Call.requests]
  cases hexchange : call.exchange with
  | lost reason => exact List.nil_prefix
  | arrived redirects answer =>
    obtain rfl : redirects = [] := by rwa [hexchange] at h
    exact List.prefix_rfl

variable {network : Network} {timeout : Nat} {asked : List Url} {url : Url}

theorem exchange_get_eq_arrived_iff {redirects : List String} {response : Response} :
    (network.get timeout asked url).exchange = .arrived redirects (.ok response) ↔
      network.Answers timeout asked url redirects response := by
  rw [get, Answers]
  cases url.objection? <;> simp

/-- A document is there exactly if the request for it is answered, and the answer does not tell of a
failure. -/
theorem text_get_eq_ok_iff {text : String} :
    (network.get timeout asked url).exchange.text = .ok text ↔ ∃ redirects response,
      network.Answers timeout asked url redirects response ∧ response.status < 400 ∧
        response.content = text := by
  simp only [Exchange.text_eq_ok_iff, exchange_get_eq_arrived_iff]

theorem requests_get {redirects : List String} {response : Response}
    (h : network.Answers timeout asked url redirects response) :
    (network.get timeout asked url).requests = (url.target :: redirects).map requestLine := by
  rw [Call.requests, exchange_get_eq_arrived_iff.2 h]
  rfl

theorem requests_get_of_text {text : String}
    (h : (network.get timeout asked url).exchange.text = .ok text)
    (hredirects : (network.get timeout asked url).exchange.redirects = []) :
    (network.get timeout asked url).requests = [requestLine url.target] := by
  obtain ⟨redirects, response, hanswers, -⟩ := text_get_eq_ok_iff.1 h
  rw [exchange_get_eq_arrived_iff.2 hanswers] at hredirects
  obtain rfl : redirects = [] := hredirects
  exact requests_get hanswers

/-- A server gives the answers that it has one after another, and then says that it knows no
more. -/
theorem answers_server_iff {responses : List Response} {redirects : List String}
    {response : Response} :
    (server responses).Answers timeout asked url redirects response ↔
      url.objection? = none ∧ redirects = [] ∧
        response = responses.getD asked.length .unknown := by
  rw [Answers, server, Exchange.arrived.injEq, Except.ok.injEq, @eq_comm _ redirects,
    @eq_comm _ response]

end Network

/-! ### Starts of tools -/

namespace Check

/-- A program can be started, whatever comes of it then. -/
def Launch.canStart : Launch → Bool
  | .refused _ => false
  | .finished _ => true

theorem Tool.started_eq (tool : Tool) (arguments : List String) (directory : String) :
    tool.started arguments directory =
      if tool.launch.canStart then [⟨tool.name, arguments, placeOf directory⟩] else [] := by
  rw [Tool.started]
  cases tool.launch <;> rfl

end Check

namespace Regeneration

open ConstantsFile Fallible Network

/-! ### Fetching -/

section

variable {network : Network} {timeout : Nat}

/-- The calls for documents, fetched one after another from a network, after other URLs have been
asked for. They end with the first document that cannot be had. -/
inductive Asked (network : Network) (timeout : Nat) :
    List Url → List (Except Url.Fault Url) → List Call → Prop
  /-- There is nothing more to fetch. -/
  | nil (asked : List Url) : Asked network timeout asked [] []
  /-- The document has no URL. -/
  | noUrl (asked : List Url) (fault : Url.Fault) (urls : List (Except Url.Fault Url)) :
      Asked network timeout asked (.error fault :: urls) []
  /-- The document is not there. -/
  | missing {asked : List Url} {url : Url} {reason : String} (urls : List (Except Url.Fault Url))
      (h : (network.get timeout asked url).exchange.text = .error reason) :
      Asked network timeout asked (.ok url :: urls) [network.get timeout asked url]
  /-- The document is there, and the next one is fetched. -/
  | fetched {asked : List Url} {url : Url} {text : String} {urls : List (Except Url.Fault Url)}
      {calls : List Call} (h : (network.get timeout asked url).exchange.text = .ok text)
      (hrest : Asked network timeout (asked ++ [url]) urls calls) :
      Asked network timeout asked (.ok url :: urls) (network.get timeout asked url :: calls)

variable {asked : List Url} {urls : List (Except Url.Fault Url)} {calls : List Call}

/-- No other URLs are asked for than those of the documents, and they are asked for in order. -/
theorem Asked.prefix_filterMap (h : Asked network timeout asked urls calls) :
    calls.map Call.url <+: urls.filterMap Except.toOption := by
  induction h with
  | nil | noUrl => exact List.nil_prefix
  | missing urls h => exact List.cons_prefix_cons.2 ⟨rfl, List.nil_prefix⟩
  | fetched h hrest ih => exact List.cons_prefix_cons.2 ⟨rfl, ih⟩

/-- Without redirects no other requests are sent than those for the documents, in order. -/
theorem Asked.requests_prefix (h : Asked network timeout asked urls calls)
    (hredirects : ∀ call ∈ calls, call.exchange.redirects = []) :
    calls.flatMap Call.requests <+:
      urls.filterMap fun url => url.toOption.map (requestLine ·.target) := by
  induction h with
  | nil | noUrl => exact List.nil_prefix
  | @missing asked url reason urls h =>
    have hcall := Call.requests_prefix (hredirects _ List.mem_cons_self)
    rw [List.flatMap_singleton]
    exact hcall.trans (List.cons_prefix_cons.2 ⟨rfl, List.nil_prefix⟩)
  | @fetched asked url text urls calls h hrest ih =>
    obtain ⟨hcall, hcalls⟩ := List.forall_mem_cons.1 hredirects
    rw [List.flatMap_cons, requests_get_of_text h hcall]
    exact List.cons_prefix_cons.2 ⟨rfl, ih hcalls⟩

variable {α : Type} {url : Except Url.Fault Url} {next : List Url → String → Fetched α}

theorem asked_fetchThen
    (h : ∀ asked text, Asked network timeout asked urls (next asked text).calls) :
    Asked network timeout asked (url :: urls) (fetchThen network timeout asked url next).calls := by
  cases url with
  | error fault => exact .noUrl asked fault urls
  | ok url =>
    rw [fetchThen]
    cases htext : (network.get timeout asked url).exchange.text with
    | error reason => simpa [htext] using .missing urls htext
    | ok text => simpa [htext] using .fetched htext (h _ _)

theorem result_fetchThen_eq_ok_iff {a : α} :
    (fetchThen network timeout asked url next).result = .ok a ↔
      ∃ address redirects response, url = .ok address ∧
        network.Answers timeout asked address redirects response ∧ response.status < 400 ∧
        (next (asked ++ [address]) (Document.withoutComments response.content)).result = .ok a := by
  cases url with
  | error fault => simp [fetchThen]
  | ok address =>
    rw [fetchThen]
    constructor
    · intro h
      cases htext : (network.get timeout asked address).exchange.text with
      | error reason => simp [htext] at h
      | ok text =>
        obtain ⟨redirects, response, hanswers, hstatus, rfl⟩ := text_get_eq_ok_iff.1 htext
        rw [htext] at h
        exact ⟨address, redirects, response, rfl, hanswers, hstatus, h⟩
    · rintro ⟨_, redirects, response, ⟨⟩, hanswers, hstatus, h⟩
      rw [text_get_eq_ok_iff.2 ⟨redirects, response, hanswers, hstatus, rfl⟩]
      exact h

end

/-- The URLs of the documents, in the order in which they are fetched. -/
def documentUrls (source : Source) : List (Except Url.Fault Url) :=
  [source.sensorTypesUrl, source.scalesUrl]

theorem asked_fetch (network : Network) (source : Source) (timeout : Nat) :
    Asked network timeout [] (documentUrls source) (fetch network source timeout).calls :=
  asked_fetchThen fun _ _ => asked_fetchThen fun asked _ => .nil asked

/-! ### What a run needs -/

/-- Both documents have URLs, the requests for them are answered one after the other, and neither
answer tells of a failure; the documents are the texts of the answers without their comments. -/
def AreAnswered (network : Network) (source : Source) (timeout : Nat) (documents : Documents) :
    Prop :=
  ∃ first second redirects redirects' response response', source.sensorTypesUrl = .ok first ∧
    source.scalesUrl = .ok second ∧ network.Answers timeout [] first redirects response ∧
    network.Answers timeout [first] second redirects' response' ∧
    response.status < 400 ∧ response'.status < 400 ∧
    documents = ⟨Document.withoutComments response.content,
      Document.withoutComments response'.content⟩

theorem result_fetch_eq_ok_iff {network : Network} {source : Source} {timeout : Nat}
    {documents : Documents} :
    (fetch network source timeout).result = .ok documents ↔
      AreAnswered network source timeout documents := by
  simp only [fetch, result_fetchThen_eq_ok_iff, Except.ok.injEq, List.nil_append]
  constructor
  · rintro ⟨first, redirects, response, hfirst, hanswers, hstatus, second, redirects', response',
      hsecond, hanswers', hstatus', rfl⟩
    exact ⟨first, second, redirects, redirects', response, response', hfirst, hsecond, hanswers,
      hanswers', hstatus, hstatus', rfl⟩
  · rintro ⟨first, second, redirects, redirects', response, response', hfirst, hsecond, hanswers,
      hanswers', hstatus, hstatus', rfl⟩
    exact ⟨first, redirects, response, hfirst, hanswers, hstatus, second, redirects', response',
      hsecond, hanswers', hstatus', rfl⟩

/-- Documents that are answered well are asked for once each. -/
theorem exists_calls_fetch_eq {network : Network} {source : Source} {timeout : Nat}
    {documents : Documents} (h : AreAnswered network source timeout documents) :
    ∃ first second redirects redirects', source.sensorTypesUrl = .ok first ∧
      source.scalesUrl = .ok second ∧
      (fetch network source timeout).calls.map Call.url = [first, second] ∧
      (fetch network source timeout).calls.map (·.exchange.redirects) = [redirects, redirects'] ∧
      (fetch network source timeout).calls.flatMap Call.requests =
        (first.target :: redirects ++ second.target :: redirects').map requestLine := by
  obtain ⟨first, second, redirects, redirects', response, response', hfirst, hsecond, hanswers,
    hanswers', hstatus, hstatus', -⟩ := h
  have hcalls : (fetch network source timeout).calls =
      [network.get timeout [] first, network.get timeout [first] second] := by
    rw [fetch, hfirst, hsecond, fetchThen,
      text_get_eq_ok_iff.2 ⟨redirects, response, hanswers, hstatus, rfl⟩]
    simp only [List.nil_append, fetchThen,
      text_get_eq_ok_iff.2 ⟨redirects', response', hanswers', hstatus', rfl⟩]
  refine ⟨first, second, redirects, redirects', hfirst, hsecond, ?_, ?_, ?_⟩
  · rw [hcalls]
    rfl
  · rw [hcalls, List.map_cons, List.map_singleton, exchange_get_eq_arrived_iff.2 hanswers,
      exchange_get_eq_arrived_iff.2 hanswers']
    rfl
  · rw [hcalls, List.flatMap_cons, List.flatMap_singleton, requests_get hanswers,
      requests_get hanswers', List.map_append]

/-- Nothing stands in the way of a run until it writes the file. -/
structure IsReady (settings : Settings) (world : World) : Prop where
  /-- Both documents are answered well, they can be read, and they make a catalogue. -/
  documents : ∃ documents catalog,
    AreAnswered world.network settings.source settings.fetchTimeout documents ∧
      IsCatalogOf documents settings catalog
  /-- The file is there, it is a text, and the end marker occurs somewhere in it. -/
  file : ∃ bytes previous, world.file = some bytes ∧ String.fromUTF8? bytes = some previous ∧
    endMarker.toList <:+: previous.toList
  /-- The disk lets the file be read. -/
  disk : world.disk.readFault? = none

theorem exists_renderFile_eq_ok_iff {documents : Documents} {previous : String}
    {settings : Settings} :
    (∃ text, renderFile documents previous settings = .ok text) ↔
      (∃ catalog, IsCatalogOf documents settings catalog) ∧
        endMarker.toList <:+: previous.toList := by
  rw [← exists_handwritten?_iff]
  simp only [renderFile_eq_ok_iff]
  constructor
  · rintro ⟨text, catalog, generated, region, hcatalog, -, hregion, -⟩
    exact ⟨⟨catalog, hcatalog⟩, region, hregion⟩
  · rintro ⟨⟨catalog, hcatalog⟩, region, hregion⟩
    obtain ⟨body, hgenerated, -⟩ := exists_generatedPart_eq hcatalog
    exact ⟨_, catalog, _, region, hcatalog, hgenerated, hregion, rfl⟩

/-- There is no new text on a disk that does not let the file be read. -/
theorem newTextIn_eq_ok_iff {settings : Settings} {world : World} {text : String} :
    newTextIn settings world = .ok text ↔
      newText settings (fetchedIn settings world).result world.file = .ok text ∧
        world.disk.readFault? = none := by
  rw [newTextIn]
  cases world.disk.readFault? with
  | none => simp
  | some reason =>
    cases (fetchedIn settings world).result <;> simp [newText, readPrevious, bind, Except.bind]

theorem exists_newTextIn_eq_ok_iff {settings : Settings} {world : World} :
    (∃ text, newTextIn settings world = .ok text) ↔ IsReady settings world := by
  simp only [newTextIn_eq_ok_iff, newText_eq_ok_iff, fetchedIn, result_fetch_eq_ok_iff]
  constructor
  · rintro ⟨text, ⟨documents, bytes, previous, hdocuments, hfile, hbytes, hrender⟩, hdisk⟩
    obtain ⟨⟨catalog, hcatalog⟩, hmarker⟩ := exists_renderFile_eq_ok_iff.1 ⟨text, hrender⟩
    exact ⟨⟨documents, catalog, hdocuments, hcatalog⟩, ⟨bytes, previous, hfile, hbytes, hmarker⟩,
      hdisk⟩
  · rintro ⟨⟨documents, catalog, hdocuments, hcatalog⟩, ⟨bytes, previous, hfile, hbytes, hmarker⟩,
      hdisk⟩
    obtain ⟨text, hrender⟩ := exists_renderFile_eq_ok_iff.2 ⟨⟨catalog, hcatalog⟩, hmarker⟩
    exact ⟨text, ⟨documents, bytes, previous, hdocuments, hfile, hbytes, hrender⟩, hdisk⟩

/-! ### What a run does -/

/-- The start of a tool in the directory of the constants file, if it is wanted and the tool can be
started. -/
def startIf (settings : Settings) (wanted : Bool) (tool : Check.Tool) (arguments : List String) :
    List Check.Invocation :=
  if wanted && tool.launch.canStart then
    [⟨tool.name, arguments, Check.placeOf (Check.directoryOf settings.destination)⟩]
  else []

theorem started_eq (settings : Settings) (world : World) :
    started settings world =
      startIf settings settings.runFormatter world.formatterTool
        ["--edition", Check.edition, settings.destination] ++
      startIf settings settings.runRepositoryCheck world.vcsTool Check.changeArguments := by
  simp only [started, startIf, Check.formatStarts, Check.repositoryStarts, Check.Tool.started_eq,
    Bool.and_eq_true, ite_and]

/-- What a run that fails before the file is written has done: it has asked for documents, and
everything else is as it was. -/
structure LeavesAll (settings : Settings) (world : World) : Prop where
  /-- The file is as it was, or still not there. -/
  file : (run settings world).file = world.file
  /-- No tool was started. -/
  started : (run settings world).started = []
  /-- Nothing was done but to send requests. -/
  effects : effects settings world = (run settings world).requests.map .request

/-- What a run that fails while the file is written has done: the file holds so many bytes of what
would have been its new text, and no tool was started. -/
structure BreaksOff (settings : Settings) (world : World) (count : Nat) : Prop where
  /-- The file is a front of its new text, and it was written after all requests were sent. -/
  file : ∃ text, newTextIn settings world = .ok text ∧
    (run settings world).file = some (text.toUTF8.extract 0 count) ∧
    effects settings world = (run settings world).requests.map .request ++
      [.write (text.toUTF8.extract 0 count)]
  /-- No tool was started. -/
  started : (run settings world).started = []

/-- What a run that succeeds has done: it has asked for both documents, then written the file, and
then started the formatter and the version control. -/
structure Completes (settings : Settings) (world : World) : Prop where
  /-- The two documents were asked for, and requests for them arrived, each one with those to which
  redirects led behind it. -/
  requests : ∃ first second redirects redirects', settings.source.sensorTypesUrl = .ok first ∧
    settings.source.scalesUrl = .ok second ∧
    (run settings world).calls.map Call.url = [first, second] ∧
    (run settings world).calls.map (·.exchange.redirects) = [redirects, redirects'] ∧
    (run settings world).requests =
      (first.target :: redirects ++ second.target :: redirects').map requestLine
  /-- The tools are the formatter and the version control, each one if it is wanted and can be
  started. -/
  started : (run settings world).started =
    startIf settings settings.runFormatter world.formatterTool
      ["--edition", Check.edition, settings.destination] ++
    startIf settings settings.runRepositoryCheck world.vcsTool Check.changeArguments
  /-- The file is written once, after the requests and before the tools are started. It holds its
  new text. -/
  file : ∃ text, newTextIn settings world = .ok text ∧
    (run settings world).file = some text.toUTF8 ∧
    effects settings world = (run settings world).requests.map .request ++
      [.write text.toUTF8] ++ (run settings world).started.map .start

section

variable {settings : Settings} {world : World}

theorem calls_run (settings : Settings) (world : World) :
    (run settings world).calls = (fetchedIn settings world).calls := by
  rw [run]
  repeat' split
  all_goals rfl

theorem exists_result_run_eq_ok_iff :
    (∃ report, (run settings world).result = .ok report) ↔
      IsReady settings world ∧ world.disk.writing = .done := by
  simp only [result_run_eq_ok_iff, exists_newTextIn_eq_ok_iff, exists_and_left, exists_eq',
    and_true]

/-- A run that gives the file nothing leaves it as it was. -/
theorem leavesAll_of_written (hfile : (run settings world).file = world.file)
    (hwritten : (run settings world).written = none)
    (hstarted : (run settings world).started = []) : LeavesAll settings world := by
  obtain ⟨-, -, heffects⟩ := perform_generate settings world
  rw [hwritten, hstarted] at heffects
  exact ⟨hfile, hstarted, by simpa using heffects⟩

theorem leavesAll_of_error {failure : Failure} (h : newTextIn settings world = .error failure) :
    LeavesAll settings world := by
  have hrun := run_of_error h
  exact leavesAll_of_written (by rw [hrun]) (by rw [hrun]) (by rw [hrun])

theorem leavesAll_of_not_isReady (h : ¬ IsReady settings world) : LeavesAll settings world := by
  cases hnew : newTextIn settings world with
  | error failure => exact leavesAll_of_error hnew
  | ok text => exact absurd (exists_newTextIn_eq_ok_iff.1 ⟨text, hnew⟩) h

/-- What cannot be opened for writing is left as it was, ready or not. -/
theorem leavesAll_of_refused {reason : String} (h : world.disk.writing = .refused reason) :
    LeavesAll settings world := by
  cases hnew : newTextIn settings world with
  | error failure => exact leavesAll_of_error hnew
  | ok text =>
    have hrun := run_of_fault hnew (by rw [h]; rfl : world.disk.writing.fault? = some reason)
    rw [h] at hrun
    exact leavesAll_of_written (by rw [hrun]; rfl) (by rw [hrun]; rfl) (by rw [hrun])

theorem result_run_of_fault (h : IsReady settings world) {reason : String}
    (hfault : world.disk.writing.fault? = some reason) :
    (run settings world).result = .error (.write settings.destination reason) := by
  obtain ⟨text, hnew⟩ := exists_newTextIn_eq_ok_iff.2 h
  rw [run_of_fault hnew hfault]

theorem breaksOff_of_isReady (h : IsReady settings world) {count : Nat} {reason : String}
    (hwriting : world.disk.writing = .brokenOff count reason) :
    BreaksOff settings world count := by
  obtain ⟨-, -, heffects⟩ := perform_generate settings world
  obtain ⟨text, hnew⟩ := exists_newTextIn_eq_ok_iff.2 h
  have hrun := run_of_fault hnew (by rw [hwriting]; rfl : world.disk.writing.fault? = some reason)
  rw [hwriting] at hrun
  refine ⟨⟨text, hnew, ?_, ?_⟩, ?_⟩
  · rw [hrun]
    rfl
  · rw [heffects, hrun]
    simp [Disk.Writing.written?]
  · rw [hrun]

theorem completes_of_isReady (h : IsReady settings world) (hdone : world.disk.writing = .done) :
    Completes settings world := by
  obtain ⟨-, -, heffects⟩ := perform_generate settings world
  obtain ⟨text, hnew⟩ := exists_newTextIn_eq_ok_iff.2 h
  have hrun := run_of_done hnew hdone
  refine ⟨?_, ?_, text, hnew, ?_, ?_⟩
  · obtain ⟨documents, -, hanswered, -⟩ := h.documents
    rw [Run.requests, calls_run, fetchedIn]
    exact exists_calls_fetch_eq hanswered
  · rw [hrun, started_eq]
  · rw [hrun]
  · rw [heffects, hrun]
    rfl

end

/-- **A run does all or nothing**, if the disk does. It succeeds exactly if nothing stands in its
way until it writes the file, and all of the file is written. It asks for the documents in order, up
to the first one that cannot be had; no other requests are sent, unless redirects lead further. A
run that does not get as far as writing the file, or cannot open it, has done nothing else. One for
which writing breaks off leaves a front of the new text and starts no tool. One that succeeds has
asked for both documents, then written the file, and then started the tools. -/
theorem run_eq_ok_iff_isReady (settings : Settings) (world : World) :
    ((∃ report, (run settings world).result = .ok report) ↔
        IsReady settings world ∧ world.disk.writing = .done) ∧
      ((performed settings world).1 = (run settings world).result ∧
        (performed settings world).2.file = (run settings world).file) ∧
      (Asked world.network settings.fetchTimeout [] (documentUrls settings.source)
          (run settings world).calls ∧
        (run settings world).calls.map Call.url <+:
          (documentUrls settings.source).filterMap Except.toOption ∧
        ((∀ call ∈ (run settings world).calls, call.exchange.redirects = []) →
          (run settings world).requests <+: (documentUrls settings.source).filterMap
            fun url => url.toOption.map (requestLine ·.target))) ∧
      ((¬ IsReady settings world ∨ ∃ reason, world.disk.writing = .refused reason) →
        LeavesAll settings world) ∧
      (IsReady settings world → ∀ reason, world.disk.writing.fault? = some reason →
        (run settings world).result = .error (.write settings.destination reason)) ∧
      (IsReady settings world → ∀ count reason, world.disk.writing = .brokenOff count reason →
        BreaksOff settings world count) ∧
      (IsReady settings world → world.disk.writing = .done → Completes settings world) := by
  obtain ⟨hresult, hfile, -⟩ := perform_generate settings world
  have hasked := asked_fetch world.network settings.source settings.fetchTimeout
  have hcalls := calls_run settings world
  rw [fetchedIn] at hcalls
  rw [← hcalls] at hasked
  refine ⟨exists_result_run_eq_ok_iff, ⟨hresult, hfile⟩,
    ⟨hasked, hasked.prefix_filterMap, hasked.requests_prefix⟩, ?_,
    fun h _ => result_run_of_fault h, fun h _ _ => breaksOff_of_isReady h, completes_of_isReady⟩
  rintro (h | ⟨reason, h⟩)
  · exact leavesAll_of_not_isReady h
  · exact leavesAll_of_refused h

/-- A server with a sensor type, whose second answer has a status; a formatter that ends badly; no
version control; and a file with an end marker. -/
def servedWorld (status : Nat) (isFinal : ¬ IsRedirect status) (disk : Disk) : World where
  network := .server [
    .found "\x7b\n// \x7b\n\"1\":\x7b\"label\":\"A\",\"scales\":\x7b\x7d\x7d\x7d".toUTF8,
    { status, body := "\x7b\x7d".toUTF8, isFinal }]
  formatter := .finished ⟨.exited 1, .empty, .empty⟩
  vcs := .refused Check.notFound
  file := markedFile
  disk

/-- One status decides about everything that comes after the requests, and the disk decides about
everything that comes after the file is opened. -/
theorem run_three_served_worlds :
    (Completes (askingFor []).settings (servedWorld 200 (by decide) {}) ∧
      (run (askingFor []).settings (servedWorld 200 (by decide) {})).started =
        [⟨"rustfmt", ["--edition", "2021", "generated/multilevel_sensor.rs"], "generated"⟩]) ∧
    (LeavesAll (askingFor []).settings (servedWorld 500 (by decide) {}) ∧
      (run (askingFor []).settings (servedWorld 500 (by decide) {})).requests =
        ["GET /p/b/s", "GET /p/b/t"]) ∧
    BreaksOff (askingFor []).settings
      (servedWorld 200 (by decide) { writing := .brokenOff 3 "No space left on device" }) 3 := by
  have hok : (run (askingFor []).settings (servedWorld 200 (by decide) {})).result.isOk := by
    decide +kernel
  have hfails : ¬ (run (askingFor []).settings (servedWorld 500 (by decide) {})).result.isOk := by
    decide +kernel
  obtain ⟨hready, -, -, -, -, -, hcompletes⟩ :=
    run_eq_ok_iff_isReady (askingFor []).settings (servedWorld 200 (by decide) {})
  obtain ⟨hready', -, -, hleaves, -⟩ :=
    run_eq_ok_iff_isReady (askingFor []).settings (servedWorld 500 (by decide) {})
  obtain ⟨-, -, -, -, -, hbreaks, -⟩ := run_eq_ok_iff_isReady (askingFor []).settings
    (servedWorld 200 (by decide) { writing := .brokenOff 3 "No space left on device" })
  obtain ⟨h, -⟩ := hready.1 (exists_eq_ok_of_isOk hok)
  refine ⟨⟨hcompletes h rfl, ?_⟩, ⟨hleaves (.inl fun h => ?_), ?_⟩,
    hbreaks ⟨h.documents, h.file, rfl⟩ 3 _ rfl⟩
  · decide +kernel
  · obtain ⟨report, hreport⟩ := hready'.2 ⟨h, rfl⟩
    exact hfails (by rw [hreport]; rfl)
  · decide +kernel

end Regeneration

end SensorCatalog
