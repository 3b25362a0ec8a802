import ScenarioCompiler.Proofs.CommandLine.Compile
import ScenarioCompiler.Proofs.Pipeline.Compile
import ScenarioCompiler.Proofs.Settings.Loading

namespace ScenarioCompiler.CommandLine

variable {arguments : List String} {files : String → FileState} {environment : Bindings}
  {freshId path place : String} {command : Command} {file : FileState} {platform document : Datum}
  {settings : PlatformSettings} {request : RunRequest} {failure : Failure} {start : RunStart}
  {template : RunTemplate} {fault : Yaml.ValueFault}

/-! ### What the files of a command hold -/

/-- The file has a text, and what the text says is the document. -/
def Holds [Yaml.Loader] (file : FileState) (document : Datum) : Prop :=
  ∃ text, textOf file = .ok (some text) ∧ Yaml.loadFile text = .ok document

theorem Holds.readDocument [Yaml.Loader] (h : Holds file document) :
    CommandLine.readDocument path file = .ok document := by
  obtain ⟨text, ht, hd⟩ := h
  simp only [CommandLine.readDocument, ht, hd]

theorem isMissing_of_textOf {text : String} (h : textOf file = .ok (some text)) :
    file.isMissing = false := by
  cases file with
  | missing => cases h
  | directory | file => rfl

theorem Holds.isMissing [Yaml.Loader] (h : Holds file document) : file.isMissing = false := by
  obtain ⟨text, ht, -⟩ := h
  exact isMissing_of_textOf ht

/-- The file has a text, and the loader gives up on it with no error of its format. -/
def Misread [Yaml.Loader] (file : FileState) (fault : Yaml.ValueFault) : Prop :=
  ∃ text, textOf file = .ok (some text) ∧ Yaml.loadFile text = .error (.value fault)

theorem Misread.readDocument [Yaml.Loader] (h : Misread file fault) :
    CommandLine.readDocument path file = .error (.crashed (.yamlValue fault)) := by
  obtain ⟨text, ht, hf⟩ := h
  simp only [CommandLine.readDocument, ht, hf]

theorem Misread.isMissing [Yaml.Loader] (h : Misread file fault) : file.isMissing = false := by
  obtain ⟨text, ht, -⟩ := h
  exact isMissing_of_textOf ht

/-- The document of a request is void, or a mapping with texts for keys. -/
def IsRecord (document : Datum) : Prop :=
  document.isVoid = true ∨ ∃ entries, document = .map entries ∧ hasTextKeys entries = true

/-- The settings in a document, under the variables of an environment. -/
def settingsIn [Yaml.Loader] (document : Datum) (environment : Bindings) :
    Except Settings.LoadError PlatformSettings :=
  Settings.ofDocument document environment Settings.defaultPrefix

/-- The request in a document. -/
def requestIn [Schema.IntegerReader] (document : Datum) :
    Except (List Schema.Problem) RunRequest :=
  RunRequest.decoder.read (.map (Settings.entriesOf (some document)))

/-- Settings of which the problems can be reported, a request that is a record, at a place under
which its own problems can be reported, and a timeout that can be printed. -/
structure Orderly [Yaml.Loader] [Schema.IntegerReader] [Console] (target : Target)
    (place : String) (platform document : Datum) (environment : Bindings) : Prop where
  settings : Settings.Orderly platform environment Settings.defaultPrefix
  record : IsRecord document
  report : ∀ problems, requestIn document = .error problems → Console.shows place problems = true
  timeout : ∀ request template, requestIn document = .ok request →
    request.solution.template request.scenario.runTemplateId = .ok template →
      writable target template = true

/-! ### Whose fault it is that a run does not compile -/

theorem ofInputs_of_compiled_eq_error
    (h : compiled command settings request freshId = .error failure) : failure.OfInputs := by
  simp only [compiled, bind_eq_error, pure_ne_error, and_false, exists_false, or_false] at h
  rcases h with hs | ⟨_, -, ht⟩
  · exact Pipeline.ofInputs_of_start_eq_error hs
  · exact Pipeline.ofInputs_of_template_eq_error ht

theorem exitCode_failed_of_ofInputs (h : failure.OfInputs) :
    failure.blame = .client ∧ (Ending.failed failure).exitCode = Blame.client.exitCode ∨
      failure.blame = .configuration ∧
        (Ending.failed failure).exitCode = Blame.configuration.exitCode := by
  have hcode : (Ending.failed failure).exitCode = failure.blame.exitCode := rfl
  rw [hcode]
  cases failure <;> simp_all [Failure.OfInputs, Failure.blame]

/-! ### What a command makes of its files -/

/-- Orderly settings are loaded, or they are invalid. -/
theorem loadSettings_of_orderly [Yaml.Loader]
    (h : Settings.Orderly platform environment Settings.defaultPrefix) :
    loadSettings path platform environment =
      (settingsIn platform environment).mapError .invalidSettings := by
  rw [loadSettings, Settings.reported_of_reportFault?_eq_none h.reportFault?_eq_none, settingsIn]
  cases he : Settings.ofDocument platform environment Settings.defaultPrefix with
  | ok settings => rfl
  | error error =>
    -- the errors that end in a crash are out of the question
    rcases h.ofDocument_eq_error he with ⟨conflict, rfl⟩ | ⟨problems, rfl⟩ <;> rfl

theorem loadSettings_of_overlaid_eq_error [Yaml.Loader] {error : Settings.LoadError}
    (h : Settings.overlaid platform environment Settings.defaultPrefix = .error error) :
    loadSettings path platform environment = .error (settingsEnding path error) := by
  have hreport : Settings.reportFault? platform environment Settings.defaultPrefix = none := by
    rw [Settings.reportFault?, h]
  rw [loadSettings, Settings.reported_of_reportFault?_eq_none hreport, Settings.ofDocument, h,
    error_bind]
  rfl

theorem loadSettings_of_not_isTable [Yaml.Loader] (h : ¬ Settings.IsTable platform) :
    ∃ crash, loadSettings path platform environment = .error (.crashed crash) := by
  rcases Settings.overlaid_of_not_isTable h with ho | ⟨fault, ho⟩
  · exact ⟨_, loadSettings_of_overlaid_eq_error ho⟩
  · exact ⟨_, loadSettings_of_overlaid_eq_error ho⟩

theorem entriesOf_of_isVoid (h : document.isVoid = true) :
    Settings.entriesOf (some document) = [] := by
  cases document with
  | map entries => exact List.isEmpty_iff.1 h
  | _ => rfl

/-- A record is a request, or an invalid one. -/
theorem requestOf_of_isRecord [Schema.IntegerReader] [Console] (h : IsRecord document) :
    requestOf place document = (requestIn document).mapError (requestEnding place) := by
  unfold requestOf requestIn
  dsimp only
  split
  · rename_i hv
    rw [entriesOf_of_isVoid hv]
  · rename_i hv
    obtain ⟨entries, rfl, hk⟩ := h.resolve_left hv
    exact if_pos hk

theorem requestOf_of_not_isRecord [Schema.IntegerReader] [Console] (h : ¬ IsRecord document) :
    requestOf place document = .error (.crashed .requestNotRecord) := by
  rw [IsRecord, not_or] at h
  unfold requestOf
  dsimp only
  rw [if_neg h.1]
  cases document with
  | map entries => exact if_neg fun hk => h.2 ⟨entries, rfl, hk⟩
  | _ => rfl

section

variable [Yaml.Loader] [Schema.IntegerReader] [Console]

theorem execute_of_exist (hp : (files command.platform).isMissing = false)
    (hr : (files command.request).isMissing = false) :
    execute command files environment freshId = (do
      let settings ← readSettings command.platform (files command.platform) environment
      let request ← readRequest command.request (files command.request)
      compile command settings request freshId) := by
  simp only [execute, List.find?, hp, hr]

theorem execute_of_holds (hp : Holds (files command.platform) platform)
    (hr : Holds (files command.request) document) :
    execute command files environment freshId = (do
      let settings ← loadSettings command.platform platform environment
      let request ← requestOf (files command.request).place document
      compile command settings request freshId) := by
  simp only [execute_of_exist hp.isMissing hr.isMissing, readSettings, readRequest,
    hp.readDocument, hr.readDocument, ok_bind]

/-! ### How a command ends -/

/-- The ending for what a command has written, or for what kept it from that. -/
def endingOf : Except Ending String → Ending
  | .ok text => .printed (text ++ "\n")
  | .error ending => ending

theorem run_of_parse (hc : parse arguments environment = .ok (.run command)) :
    run arguments files environment freshId =
      endingOf (execute command files environment freshId) := by
  rw [run, hc]
  cases h : execute command files environment freshId <;> simp only [h, endingOf]

/-- A command crashes on a platform file that the loader gives up on. -/
theorem run_of_misread_platform (hc : parse arguments environment = .ok (.run command))
    (hp : Misread (files command.platform) fault)
    (hr : (files command.request).isMissing = false) :
    run arguments files environment freshId = .crashed (.yamlValue fault) := by
  rw [run_of_parse hc, execute_of_exist hp.isMissing hr, readSettings, hp.readDocument, error_bind,
    error_bind, endingOf]

/-- A command crashes on a request file that the loader gives up on, though the settings are
valid. -/
theorem run_of_misread_request (hc : parse arguments environment = .ok (.run command))
    (hp : Holds (files command.platform) platform)
    (hs : Settings.Orderly platform environment Settings.defaultPrefix)
    (hl : settingsIn platform environment = .ok settings)
    (hr : Misread (files command.request) fault) :
    run arguments files environment freshId = .crashed (.yamlValue fault) := by
  rw [run_of_parse hc, execute_of_exist hp.isMissing hr.isMissing, readSettings, hp.readDocument,
    ok_bind, loadSettings_of_orderly hs, hl, mapError_ok, ok_bind, readRequest, hr.readDocument,
    error_bind, error_bind, endingOf]

section

variable (hc : parse arguments environment = .ok (.run command))
  (hp : Holds (files command.platform) platform) (hr : Holds (files command.request) document)

include hc hp hr

/-- A command crashes on all settings that are no table. -/
theorem run_of_not_isTable (h : ¬ Settings.IsTable platform) :
    ∃ crash, run arguments files environment freshId = .crashed crash := by
  obtain ⟨crash, hl⟩ := loadSettings_of_not_isTable h
  exact ⟨crash, by rw [run_of_parse hc, execute_of_holds hp hr, hl, error_bind, endingOf]⟩

variable (hs : Settings.Orderly platform environment Settings.defaultPrefix)

include hs

theorem run_invalidSettings {error : Settings.LoadError}
    (hl : settingsIn platform environment = .error error) :
    run arguments files environment freshId = .invalidSettings error := by
  rw [run_of_parse hc, execute_of_holds hp hr, loadSettings_of_orderly hs, hl, mapError_error,
    error_bind, endingOf]

theorem run_of_settings (hl : settingsIn platform environment = .ok settings) :
    run arguments files environment freshId =
      endingOf (requestOf (files command.request).place document >>= fun request =>
        compile command settings request freshId) := by
  rw [run_of_parse hc, execute_of_holds hp hr, loadSettings_of_orderly hs, hl, mapError_ok,
    ok_bind]

/-- A command crashes on all requests that are no record, though the settings are valid. -/
theorem run_of_not_isRecord (hl : settingsIn platform environment = .ok settings)
    (h : ¬ IsRecord document) :
    run arguments files environment freshId = .crashed .requestNotRecord := by
  rw [run_of_settings hc hp hr hs hl, requestOf_of_not_isRecord h, error_bind, endingOf]

variable (hd : IsRecord document) (hl : settingsIn platform environment = .ok settings)

include hd hl

theorem run_of_problems {problems : List Schema.Problem}
    (hq : requestIn document = .error problems) :
    run arguments files environment freshId =
      requestEnding (files command.request).place problems := by
  rw [run_of_settings hc hp hr hs hl, requestOf_of_isRecord hd, hq, mapError_error, error_bind,
    endingOf]

theorem run_invalidRequest {problems : List Schema.Problem}
    (hq : requestIn document = .error problems)
    (hw : Console.shows (files command.request).place problems = true) :
    run arguments files environment freshId = .invalidRequest problems := by
  rw [run_of_problems hc hp hr hs hd hl hq, requestEnding, if_pos hw]

/-- A command crashes on an invalid request at a place under which the console cannot print what is
wrong with it. -/
theorem run_of_not_shown {problems : List Schema.Problem}
    (hq : requestIn document = .error problems)
    (hw : Console.shows (files command.request).place problems = false) :
    run arguments files environment freshId = .crashed .markInPath := by
  rw [run_of_problems hc hp hr hs hd hl hq, requestEnding, hw, if_neg Bool.false_ne_true]

theorem run_of_request (hq : requestIn document = .ok request) :
    run arguments files environment freshId =
      endingOf (compile command settings request freshId) := by
  rw [run_of_settings hc hp hr hs hl, requestOf_of_isRecord hd, hq, mapError_ok, ok_bind]

theorem run_failed (hq : requestIn document = .ok request)
    (hk : compiled command settings request freshId = .error failure) :
    run arguments files environment freshId = .failed failure := by
  rw [run_of_request hc hp hr hs hd hl hq, compile_of_error hk, endingOf]

theorem run_printed (hq : requestIn document = .ok request)
    (hk : compiled command settings request freshId = .ok (start, template))
    (hw : writable command.target template = true) :
    run arguments files environment freshId = .printed (command.format.write
      (documentOf command.target settings request template start) ++ "\n") := by
  rw [run_of_request hc hp hr hs hd hl hq, compile_of_ok hk, if_pos hw, endingOf]

end

/-- An orderly command ends in one of four ways. -/
theorem run_cases (hc : parse arguments environment = .ok (.run command))
    (hp : Holds (files command.platform) platform)
    (hr : Holds (files command.request) document)
    (ho : Orderly command.target (files command.request).place platform document environment) :
    (∃ error, run arguments files environment freshId = .invalidSettings error) ∨
    (∃ problems, run arguments files environment freshId = .invalidRequest problems) ∨
    (∃ failure, run arguments files environment freshId = .failed failure ∧ failure.OfInputs) ∨
    ∃ text, run arguments files environment freshId = .printed text := by
  cases hl : settingsIn platform environment with
  | error error => exact .inl ⟨error, run_invalidSettings hc hp hr ho.settings hl⟩
  | ok settings =>
    cases hq : requestIn document with
    | error problems =>
      have hw := ho.report problems hq
      exact .inr (.inl ⟨problems, run_invalidRequest hc hp hr ho.settings ho.record hl hq hw⟩)
    | ok request =>
      right; right
      cases hk : compiled command settings request freshId with
      | error failure =>
        exact .inl ⟨failure, run_failed hc hp hr ho.settings ho.record hl hq hk,
          ofInputs_of_compiled_eq_error hk⟩
      | ok result =>
        have ht := ho.timeout request result.2 hq (compiled_eq_ok.1 hk).2
        exact .inr ⟨_, run_printed hc hp hr ho.settings ho.record hl hq hk ht⟩

/-- The ending of a command is about the first of the settings, the request and the run that is not
valid, and its exit code says who has to act on that. -/
structure Classified (command : Command) (platform document : Datum) (environment : Bindings)
    (freshId : String) (ending : Ending) : Prop where
  expected : ∀ crash, ending ≠ .crashed crash
  exitCode_ne_invariant : ending.exitCode ≠ Blame.invariant.exitCode
  settings : ∀ error, settingsIn platform environment = .error error →
    ending = .invalidSettings error ∧ ending.exitCode = Blame.configuration.exitCode
  request : ∀ settings problems, settingsIn platform environment = .ok settings →
    requestIn document = .error problems →
      ending = .invalidRequest problems ∧ ending.exitCode = Blame.client.exitCode
  failure : ∀ settings request failure, settingsIn platform environment = .ok settings →
    requestIn document = .ok request →
      compiled command settings request freshId = .error failure → ending = .failed failure ∧
        (failure.blame = .client ∧ ending.exitCode = Blame.client.exitCode ∨
          failure.blame = .configuration ∧ ending.exitCode = Blame.configuration.exitCode)
  success : ∀ settings request start template, settingsIn platform environment = .ok settings →
    requestIn document = .ok request →
      compiled command settings request freshId = .ok (start, template) →
        ending.exitCode = 0 ∧ ending = .printed (command.format.write
          (documentOf command.target settings request template start) ++ "\n")

/-- A command on orderly files never ends in a way that nothing accounts for. -/
theorem failures_are_classified (freshId : String)
    (hc : parse arguments environment = .ok (.run command))
    (hp : Holds (files command.platform) platform)
    (hr : Holds (files command.request) document)
    (ho : Orderly command.target (files command.request).place platform document environment) :
    Classified command platform document environment freshId
      (run arguments files environment freshId) where
  expected := by
    rcases run_cases hc hp hr ho with ⟨_, h⟩ | ⟨_, h⟩ | ⟨_, h, -⟩ | ⟨_, h⟩ <;> rw [h] <;> nofun
  exitCode_ne_invariant := by
    rcases run_cases hc hp hr ho with ⟨_, h⟩ | ⟨_, h⟩ | ⟨_, h, hf⟩ | ⟨_, h⟩ <;> rw [h]
    · nofun
    · nofun
    · rcases exitCode_failed_of_ofInputs hf with ⟨-, he⟩ | ⟨-, he⟩ <;> rw [he] <;> nofun
    · nofun
  settings error hl := by
    have h : run arguments files environment freshId = .invalidSettings error :=
      run_invalidSettings hc hp hr ho.settings hl
    exact ⟨h, congrArg Ending.exitCode h⟩
  request settings problems hl hq := by
    have h : run arguments files environment freshId = .invalidRequest problems :=
      run_invalidRequest hc hp hr ho.settings ho.record hl hq (ho.report problems hq)
    exact ⟨h, congrArg Ending.exitCode h⟩
  failure settings request failure hl hq hk := by
    have h := run_failed hc hp hr ho.settings ho.record hl hq hk
    refine ⟨h, ?_⟩
    rw [h]
    exact exitCode_failed_of_ofInputs (ofInputs_of_compiled_eq_error hk)
  success settings request start template hl hq hk := by
    have ht := ho.timeout request template hq (compiled_eq_ok.1 hk).2
    have h := run_printed hc hp hr ho.settings ho.record hl hq hk ht
    exact ⟨congrArg Ending.exitCode h, h⟩

end

/-! ### Small files -/

theorem textOf_file (place text : String) :
    textOf (.file place text.toUTF8) = .ok (some text) := by
  have h : String.fromUTF8? text.toUTF8 = some text := dif_pos text.isValidUTF8
  simp only [textOf, h]

def smallArguments : List String := ["compile", "request.yaml", "-p", "platform.yaml"]

def smallCommand : Command := ⟨.workflow, "request.yaml", "platform.yaml", .yaml, false⟩

def noVariables : Bindings := ⟨[], List.nodup_nil⟩

/-- Settings with no more than what is required. -/
def platformText : String :=
  "api: \x7bbaseUrl: u\x7d\nimages: \x7bscenarioFetchParameters: f, sendDataWarehouse: s\x7d\n"

/-- A request whose scenario names a run template that the solution lacks. -/
def requestText : String :=
  "organization: \x7bid: o\x7d\nworkspace: \x7bid: w, key: k\x7d\n" ++
  "solution: \x7bid: s, repository: r\x7d\nscenario: \x7bid: x, runTemplateId: t\x7d\n"

/-- Files with small settings and the given request, in the directory `runs`. -/
def filesWith (request path : String) : FileState :=
  if path = "platform.yaml" then .file "/runs/platform.yaml" platformText.toUTF8
  else if path = "request.yaml" then .file "/runs/request.yaml" request.toUTF8
  else .missing

def platformDocument : Datum := .map [
  (.str "api", .map [(.str "baseUrl", .str "u")]),
  (.str "images", .map [
    (.str "scenarioFetchParameters", .str "f"), (.str "sendDataWarehouse", .str "s")])]

def requestDocument : Datum := .map [
  (.str "organization", .map [(.str "id", .str "o")]),
  (.str "workspace", .map [(.str "id", .str "w"), (.str "key", .str "k")]),
  (.str "solution", .map [(.str "id", .str "s"), (.str "repository", .str "r")]),
  (.str "scenario", .map [(.str "id", .str "x"), (.str "runTemplateId", .str "t")])]

theorem parse_smallArguments : parse smallArguments noVariables = .ok (.run smallCommand) := by
  cbv

theorem holds_platform (request : String) :
    Holds (filesWith request smallCommand.platform) platformDocument :=
  ⟨platformText, textOf_file _ _, by decide +kernel⟩

theorem holds_request {request : String} (h : Yaml.loadFile request = .ok document) :
    Holds (filesWith request smallCommand.request) document :=
  ⟨request, textOf_file _ _, h⟩

theorem ofEnvironment_noVariables (shape : Schema.Shape) (start : String) :
    Override.ofEnvironment shape start noVariables = .ok [] := by
  rw [Override.ofEnvironment, noVariables, List.mergeSort_nil, Override.insertAll]

theorem orderly_platform :
    Settings.Orderly platformDocument noVariables Settings.defaultPrefix where
  document := .inr ⟨_, rfl, by
    simp [platformDocument, Datum.Writable, Datum.WritableEntries, Datum.HasName]⟩
  overrides overrides ho x hx := by
    rw [ofEnvironment_noVariables, Except.ok.injEq] at ho
    simp [← ho, Settings.originsOf] at hx

theorem exists_settings : ∃ settings, settingsIn platformDocument noVariables = .ok settings := by
  simp only [settingsIn, Settings.ofDocument, Settings.overlaid, ofEnvironment_noVariables,
    mapError_ok, ok_bind, Settings.merge]
  exact ⟨_, rfl⟩

theorem small_classified :
    run smallArguments (filesWith requestText) noVariables "id" =
        .failed (.unknownRunTemplate "t" (some "s")) ∧
      (run smallArguments (filesWith requestText) noVariables "id").exitCode =
        Blame.configuration.exitCode := by
  have hrequest : requestIn requestDocument = .ok _ := rfl
  have ho : Orderly .workflow "/runs/request.yaml" platformDocument requestDocument noVariables :=
    { settings := orderly_platform
      record := .inr ⟨_, rfl, rfl⟩
      report := fun _ hq => nomatch hrequest.symm.trans hq
      timeout := fun request template hq ht => by
        rw [hrequest] at hq
        cases hq
        cases ht }
  have hfiles := holds_request (show Yaml.loadFile requestText = .ok requestDocument by
    decide +kernel)
  obtain ⟨settings, hs⟩ := exists_settings
  have h := failures_are_classified "id" parse_smallArguments (holds_platform requestText)
    hfiles ho
  have hf := h.failure settings _ (.unknownRunTemplate "t" (some "s")) hs hrequest rfl
  exact ⟨hf.1, hf.2.resolve_left (fun hb => nomatch hb.1) |>.2⟩

/-- Settings are valid and the request is not, but the exit code does not say so. -/
theorem listRequest_crashes :
    parse smallArguments noVariables = .ok (.run smallCommand) ∧
    Holds (filesWith "- 1\n" smallCommand.platform) platformDocument ∧
    Holds (filesWith "- 1\n" smallCommand.request) (.seq [.int 1]) ∧
    (∃ settings, settingsIn platformDocument noVariables = .ok settings) ∧
    ¬ IsRecord (.seq [.int 1]) ∧
    run smallArguments (filesWith "- 1\n") noVariables "id" = .crashed .requestNotRecord ∧
    (run smallArguments (filesWith "- 1\n") noVariables "id").exitCode ≠ Blame.client.exitCode := by
  have hrequest : Holds (filesWith "- 1\n" smallCommand.request) (.seq [.int 1]) :=
    holds_request (by decide +kernel)
  have hn : ¬ IsRecord (.seq [.int 1]) := by
    rintro (h | ⟨_, h, -⟩)
    · cases h
    · cases h
  obtain ⟨settings, hs⟩ := exists_settings
  have h : run smallArguments (filesWith "- 1\n") noVariables "id" =
      .crashed .requestNotRecord :=
    run_of_not_isRecord parse_smallArguments (holds_platform _) hrequest orderly_platform hs hn
  refine ⟨parse_smallArguments, holds_platform _, hrequest, ⟨settings, hs⟩, hn, h, ?_⟩
  rw [h]
  nofun

end ScenarioCompiler.CommandLine
