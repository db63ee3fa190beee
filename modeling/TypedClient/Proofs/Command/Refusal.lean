/-
# Runs that write nothing

A run that is refused for what it reads leaves every file as it is, and so does a dry run.
The reasons are those that a run can find before it writes: the settings file, the source, a
setting, the formatter, the document, or what compiling it shows. They are complete: a run
that finds none of them gets as far as writing.
-/

import TypedClient.Proofs.Command.Preparation
import TypedClient.Proofs.Compile.Stages

namespace TypedClient.Command

variable {environment : Environment (StateM FileTree)} {tree : FileTree}
  {preparation : Preparation} {message : String}

/-! ## Reasons -/

/-- Where the settings of a run are kept. -/
def settingsPath? (environment : Environment (StateM FileTree)) (config : Option String) :
    Option String :=
  config.or (environment.home?.map SettingsStore.defaultPath)

/-- The settings a run starts from: those in the file, or the defaults if there is none. -/
structure Opens (environment : Environment (StateM FileTree)) (tree : FileTree)
    (config : Option String) (store : SettingsStore) : Prop where
  located : settingsPath? environment config = some store.path
  loaded :
    (tree.holds store.path = false ∧ store.settings = {}) ∨
      tree.holds store.path = true ∧
        ∃ text, tree.read store.path = .ok text ∧ Settings.parse? text = some store.settings

/-- The settings file is bad. -/
inductive StoreRefused (environment : Environment (StateM FileTree)) (tree : FileTree)
    (config : Option String) : String → Prop where
  | noHome (unknown : settingsPath? environment config = none) :
    StoreRefused environment tree config StoreError.noHome.message
  | unreadable {path : String} {cause : FileError}
    (located : settingsPath? environment config = some path) (held : tree.holds path = true)
    (failed : tree.read path = .error cause) :
    StoreRefused environment tree config (StoreError.read path cause).message
  | noSettings {path text : String} (located : settingsPath? environment config = some path)
    (held : tree.holds path = true) (read : tree.read path = .ok text)
    (malformed : Settings.parse? text = none) :
    StoreRefused environment tree config (StoreError.parse path).message

/-- A setting or the formatter is bad, or the document cannot be compiled. -/
inductive CompileRefused (environment : Environment (StateM FileTree)) (document : Document)
    (settings : Settings) (overrides : Overrides) (flag : Option FormatterChoice) :
    String → Prop where
  | setting {message : String} (bad : settings.compileConfig overrides = .error message) :
    CompileRefused environment document settings overrides flag message
  | formatter {message : String} {config : CompileConfig}
    (configured : settings.compileConfig overrides = .ok config)
    (bad : settings.formatterChoice flag = .error message) :
    CompileRefused environment document settings overrides flag message
  | missingFormatter {message : String} {config : CompileConfig} {choice : FormatterChoice}
    (configured : settings.compileConfig overrides = .ok config)
    (chosen : settings.formatterChoice flag = .ok choice)
    (missing : formatterFor environment choice = .error message) :
    CompileRefused environment document settings overrides flag message
  | compilation {config : CompileConfig} {choice : FormatterChoice} {layout : Formatter}
    {error : CompileError} (configured : settings.compileConfig overrides = .ok config)
    (chosen : settings.formatterChoice flag = .ok choice)
    (found : formatterFor environment choice = .ok layout)
    (failed : document.compile config layout .builtin = .error error) :
    CompileRefused environment document settings overrides flag (describe error)

namespace Preparation

/-- The source of a run: the one given, else the stored one. -/
def source (preparation : Preparation) (settings : Settings) : String :=
  preparation.shared.source.getD settings.core.source

/-- The store that a run keeps. -/
def kept (preparation : Preparation) (overrides : Overrides) (store : SettingsStore) :
    SettingsStore :=
  store.update (preparation.settle (preparation.source store.settings) overrides)

/-- A run gets as far as its source, a file that is there. -/
structure Chooses (environment : Environment (StateM FileTree)) (tree : FileTree)
    (preparation : Preparation) (store : SettingsStore) : Prop
    extends Opens environment tree preparation.shared.config store where
  isFile : tree.isFile (preparation.source store.settings) = true

/-- A run gets as far as the text of its source. -/
structure Reads (environment : Environment (StateM FileTree)) (tree : FileTree)
    (preparation : Preparation) (store : SettingsStore) (overrides : Overrides) (text : String) :
    Prop extends preparation.Chooses environment tree store where
  overridden : preparation.overrides store.settings = .ok overrides
  read : tree.read (preparation.source store.settings) = .ok text

/-- A run gets through to what it compiles. -/
structure Compiles (environment : Environment (StateM FileTree)) (tree : FileTree)
    (preparation : Preparation) (store : SettingsStore) (overrides : Overrides)
    (output : CompileOutput) : Prop where
  compiles : ∃ text document, preparation.Reads environment tree store overrides text ∧
    Document.parse text = .ok document ∧
    compile environment document (preparation.kept overrides store).settings overrides
      preparation.formatter = .ok output

/-- A run is refused, with a message. -/
inductive Refused (environment : Environment (StateM FileTree)) (tree : FileTree)
    (preparation : Preparation) : String → Prop where
  | store {message : String}
    (refused : StoreRefused environment tree preparation.shared.config message) :
    Refused environment tree preparation message
  | source {store : SettingsStore}
    (opened : Opens environment tree preparation.shared.config store)
    (noFile : tree.isFile (preparation.source store.settings) = false) :
    Refused environment tree preparation
      s!"'{preparation.source store.settings}' is neither a URL nor an existing file"
  | language {store : SettingsStore} {message : String}
    (chosen : preparation.Chooses environment tree store)
    (bad : preparation.overrides store.settings = .error message) :
    Refused environment tree preparation message
  | unreadable {store : SettingsStore} {overrides : Overrides} {cause : FileError}
    (chosen : preparation.Chooses environment tree store)
    (overridden : preparation.overrides store.settings = .ok overrides)
    (failed : tree.read (preparation.source store.settings) = .error cause) :
    Refused environment tree preparation
      s!"Failed to read {preparation.source store.settings}: {cause.message}"
  | malformed {store : SettingsStore} {overrides : Overrides} {text : String}
    {error : CompileError} (reads : preparation.Reads environment tree store overrides text)
    (failed : Document.parse text = .error error) :
    Refused environment tree preparation (describe error)
  | compilation {store : SettingsStore} {overrides : Overrides} {text message : String}
    {document : Document} (reads : preparation.Reads environment tree store overrides text)
    (parsed : Document.parse text = .ok document)
    (refused : CompileRefused environment document (preparation.kept overrides store).settings
      overrides preparation.formatter message) :
    Refused environment tree preparation message

/-- The source is a file, not an address. -/
def HasFileSource (environment : Environment (StateM FileTree)) (tree : FileTree)
    (preparation : Preparation) : Prop :=
  ∀ store, Opens environment tree preparation.shared.config store →
    Url.isWeb (preparation.source store.settings) = false

end Preparation

/-! ## One step after the other -/

/-- What loading comes to. -/
theorem yields_load (tree : FileTree) (path : String) :
    Yields tree (SettingsStore.load path)
      (if tree.holds path then
        match tree.read path with
        | .ok text =>
          match Settings.parse? text with
          | some settings => .ok ⟨path, settings⟩
          | none => .error (.parse path)
        | .error cause => .error (.read path cause)
      else .ok ⟨path, {}⟩) := by
  unfold SettingsStore.load
  refine (yields_holds tree path).bind ?_
  split
  · refine (yields_read tree path).bind ?_
    cases tree.read path with
    | error cause => exact yields_throw ..
    | ok text =>
        dsimp only
        cases Settings.parse? text with
        | none => exact yields_throw ..
        | some settings => exact yields_pure ..
  · exact yields_pure ..

theorem openStore_of_located {config : Option String} {path : String}
    (located : settingsPath? environment config = some path) :
    openStore environment config =
      ExceptT.adapt StoreError.message (SettingsStore.load path) := by
  unfold settingsPath? at located
  unfold openStore
  cases config with
  | some given =>
      cases located
      rfl
  | none =>
      rw [Option.none_or, Option.map_eq_some_iff] at located
      obtain ⟨home, isHome, rfl⟩ := located
      rw [isHome]

theorem openStore_of_opens {config : Option String} {store : SettingsStore}
    (opened : Opens environment tree config store) :
    Yields tree (openStore environment config) (.ok store) := by
  obtain ⟨located, loaded⟩ := opened
  rw [openStore_of_located located]
  have loads := (yields_load tree store.path).adapt StoreError.message
  rcases loaded with ⟨absent, isDefault⟩ | ⟨held, text, read, parsed⟩
  · rw [absent, ← isDefault] at loads
    exact loads
  · rw [held, read, if_pos rfl] at loads
    simp only [parsed] at loads
    exact loads

theorem openStore_of_refused {config : Option String}
    (refused : StoreRefused environment tree config message) :
    Yields tree (openStore environment config) (.error message) := by
  cases refused with
  | noHome unknown =>
      obtain ⟨rfl, homeless⟩ : config = none ∧ environment.home? = none := by
        simpa [settingsPath?] using unknown
      have unfolded : openStore environment none =
          ExceptT.adapt StoreError.message (throw StoreError.noHome) := by
        unfold openStore
        rw [homeless]
      rw [unfolded]
      exact (yields_throw tree StoreError.noHome).adapt StoreError.message
  | @unreadable path cause located held failed =>
      have loads := (yields_load tree path).adapt StoreError.message
      rw [held, failed] at loads
      rw [openStore_of_located located]
      exact loads
  | @noSettings path text located held read malformed =>
      have loads := (yields_load tree path).adapt StoreError.message
      rw [held, read, if_pos rfl] at loads
      simp only [malformed] at loads
      rw [openStore_of_located located]
      exact loads

/-- Settings are opened, or their file is bad. -/
theorem opens_or_refused (environment : Environment (StateM FileTree)) (tree : FileTree)
    (config : Option String) :
    (∃ store, Opens environment tree config store) ∨
      ∃ message, StoreRefused environment tree config message := by
  cases located : settingsPath? environment config with
  | none => exact .inr ⟨_, .noHome located⟩
  | some path =>
      cases held : tree.holds path with
      | false => exact .inl ⟨⟨path, {}⟩, located, .inl ⟨held, rfl⟩⟩
      | true =>
          cases read : tree.read path with
          | error cause => exact .inr ⟨_, .unreadable located held read⟩
          | ok text =>
              cases parsed : Settings.parse? text with
              | none => exact .inr ⟨_, .noSettings located held read parsed⟩
              | some settings =>
                  exact .inl ⟨⟨path, settings⟩, located, .inr ⟨held, text, read, parsed⟩⟩

/-- A file is accepted as a source if it is there. -/
theorem yields_chooseSource (tree : FileTree) {shared : SharedArguments} {settings : Settings}
    (source : String) (isSource : shared.source.getD settings.core.source = source)
    (isLocal : Url.isWeb source = false) :
    Yields tree (chooseSource shared settings)
      (if tree.isFile source then .ok source
      else .error s!"'{source}' is neither a URL nor an existing file") := by
  have checks : Yields tree (checkSource source) (if tree.isFile source then .ok ()
      else .error s!"'{source}' is neither a URL nor an existing file") := by
    unfold checkSource
    refine (yields_isFile tree source).bind ?_
    rw [isLocal]
    cases tree.isFile source with
    | true => exact yields_pure ..
    | false => exact yields_throw ..
  unfold chooseSource
  rw [isSource]
  cases isFile : tree.isFile source with
  | true =>
      rw [isFile] at checks
      exact Yields.bind checks (yields_pure ..)
  | false =>
      rw [isFile] at checks
      exact Yields.bind_error checks

/-- The document of a file is read from its text. -/
theorem yields_readDocument (environment : Environment (StateM FileTree)) (tree : FileTree)
    {source : String} (isLocal : Url.isWeb source = false) (settings : Settings) :
    Yields tree (readDocument environment source settings)
      (match tree.read source with
      | .ok text => (Document.parse text).mapError describe
      | .error cause => .error s!"Failed to read {source}: {cause.message}") := by
  have loads : Yields tree (loadSource environment source settings.api.cookie)
      (match tree.read source with
      | .ok text => .ok text
      | .error cause => .error s!"Failed to read {source}: {cause.message}") := by
    unfold loadSource
    rw [isLocal]
    refine (yields_read tree source).bind ?_
    cases tree.read source with
    | ok text => exact yields_pure ..
    | error cause => exact yields_throw ..
  unfold readDocument
  cases read : tree.read source with
  | ok text =>
      rw [read] at loads
      exact Yields.bind loads (yields_ofExcept tree rfl)
  | error cause =>
      rw [read] at loads
      exact Yields.bind_error loads

/-- Compiling fails for the listed reasons. -/
theorem compile_eq_error_iff {document : Document} {settings : Settings} {overrides : Overrides}
    {flag : Option FormatterChoice} :
    compile environment document settings overrides flag = .error message ↔
      CompileRefused environment document settings overrides flag message := by
  constructor
  · intro failed
    rcases Compile.eq_error_of_bind failed with bad | ⟨config, configured, failed⟩
    · exact .setting bad
    rcases Compile.eq_error_of_bind failed with bad | ⟨choice, chosen, failed⟩
    · exact .formatter configured bad
    rcases Compile.eq_error_of_bind failed with missing | ⟨layout, found, failed⟩
    · exact .missingFormatter configured chosen missing
    cases compiled : document.compile config layout .builtin with
    | ok output =>
        rw [compiled] at failed
        cases failed
    | error error =>
        rw [compiled] at failed
        cases failed
        exact .compilation configured chosen found compiled
  · intro refused
    unfold compile
    cases refused with
    | setting bad =>
        rw [bad]
        rfl
    | formatter configured bad =>
        rw [configured, bad]
        rfl
    | missingFormatter configured chosen missing =>
        rw [configured, chosen]
        simp only [bind, Except.bind, missing]
    | compilation configured chosen found failed =>
        rw [configured, chosen]
        simp only [bind, Except.bind, found, failed]
        rfl

theorem mock_of_compileConfig {settings : Settings} {overrides : Overrides}
    {config : CompileConfig} (configured : settings.compileConfig overrides = .ok config) :
    config.mock = overrides.mock := by
  unfold Settings.compileConfig at configured
  dsimp only at configured
  split at configured
  all_goals
    obtain ⟨language, -, configured⟩ := Compile.eq_ok_of_bind configured
    split at configured
  all_goals
    obtain ⟨naming, -, configured⟩ := Compile.eq_ok_of_bind configured
    cases configured
    rfl

/-- A compilation that is asked for mock data has some. -/
theorem isSome_mocks_of_compile {document : Document} {settings : Settings}
    {overrides : Overrides} {flag : Option FormatterChoice} {output : CompileOutput}
    (mock : overrides.mock = true)
    (compiled : compile environment document settings overrides flag = .ok output) :
    output.mocks?.isSome = true := by
  obtain ⟨config, configured, compiled⟩ := Compile.eq_ok_of_bind compiled
  obtain ⟨choice, -, compiled⟩ := Compile.eq_ok_of_bind compiled
  obtain ⟨layout, -, compiled⟩ := Compile.eq_ok_of_bind compiled
  cases done : document.compile config layout .builtin with
  | error error =>
      rw [done] at compiled
      cases compiled
  | ok produced =>
      rw [done] at compiled
      cases compiled
      obtain ⟨declared, succeeds⟩ := Compile.exists_succeeds done
      rw [succeeds.mocks, mock_of_compileConfig configured, if_pos mock]
      rfl

namespace Preparation

variable {store : SettingsStore} {overrides : Overrides} {text : String}

theorem Chooses.yields (chosen : preparation.Chooses environment tree store)
    (fileSource : preparation.HasFileSource environment tree) :
    Yields tree (chooseSource preparation.shared store.settings)
      (.ok (preparation.source store.settings)) := by
  have chooses := yields_chooseSource tree (preparation.source store.settings) rfl
    (fileSource store chosen.toOpens)
  rw [if_pos chosen.isFile] at chooses
  exact chooses

/-- A run that gets as far as its text goes on with it. -/
theorem Reads.compiled (reads : preparation.Reads environment tree store overrides text)
    (fileSource : preparation.HasFileSource environment tree)
    {result : Except String (SettingsStore × CompileOutput)}
    (goesOn : (match (Document.parse text).mapError describe with
      | .error message => .error message
      | .ok document =>
        (compile environment document (preparation.kept overrides store).settings overrides
          preparation.formatter).map (preparation.kept overrides store, ·)) = result) :
    Yields tree (preparation.compiled environment) result := by
  have readsDocument : Yields tree
      (readDocument environment (preparation.source store.settings) store.settings)
      ((Document.parse text).mapError describe) := by
    have readsFile := yields_readDocument environment tree
      (fileSource store reads.toOpens) store.settings
    rwa [reads.read] at readsFile
  refine (openStore_of_opens reads.toOpens).bind ((reads.yields fileSource).bind
    ((yields_ofExcept tree reads.overridden).bind ?_))
  cases parsed : (Document.parse text).mapError describe with
  | error message =>
      rw [parsed] at readsDocument goesOn
      rw [← goesOn]
      exact readsDocument.bind_error
  | ok document =>
      rw [parsed] at readsDocument goesOn
      refine readsDocument.bind ?_
      dsimp only at goesOn
      cases compiled : compile environment document
          (preparation.kept overrides store).settings overrides preparation.formatter with
      | error message =>
          rw [compiled] at goesOn
          rw [← goesOn]
          exact (yields_ofExcept tree compiled).bind_error
      | ok output =>
          rw [compiled] at goesOn
          rw [← goesOn]
          exact (yields_ofExcept tree compiled).bind (yields_pure ..)

/-- The steps before writing stop for the listed reasons. -/
theorem compiled_of_refused (fileSource : preparation.HasFileSource environment tree)
    (refused : preparation.Refused environment tree message) :
    Yields tree (preparation.compiled environment) (.error message) := by
  cases refused with
  | store refused => exact (openStore_of_refused refused).bind_error
  | @source store opened noFile =>
      have chooses := yields_chooseSource tree (preparation.source store.settings) rfl
        (fileSource store opened)
      rw [noFile] at chooses
      exact (openStore_of_opens opened).bind (Yields.bind_error chooses)
  | language chosen bad =>
      exact (openStore_of_opens chosen.toOpens).bind
        ((chosen.yields fileSource).bind (yields_ofExcept tree bad).bind_error)
  | @unreadable store overrides cause chosen overridden failed =>
      have readsDocument := yields_readDocument environment tree
        (fileSource store chosen.toOpens) store.settings
      rw [failed] at readsDocument
      exact (openStore_of_opens chosen.toOpens).bind ((chosen.yields fileSource).bind
        ((yields_ofExcept tree overridden).bind (Yields.bind_error readsDocument)))
  | malformed reads failed => exact reads.compiled fileSource (by rw [failed]; rfl)
  | compilation reads parsed refused =>
      refine reads.compiled fileSource ?_
      rw [parsed]
      exact congrArg (Except.map _) (compile_eq_error_iff.mpr refused)

/-- A run compiles its document, or there is a reason why it does not. -/
theorem refused_or_compiled (fileSource : preparation.HasFileSource environment tree) :
    (∃ message, preparation.Refused environment tree message) ∨
      ∃ store overrides output, preparation.Compiles environment tree store overrides output ∧
        Yields tree (preparation.compiled environment)
          (.ok (preparation.kept overrides store, output)) := by
  rcases opens_or_refused environment tree preparation.shared.config with
    ⟨store, opened⟩ | ⟨message, refused⟩
  · cases isFile : tree.isFile (preparation.source store.settings) with
    | false => exact .inl ⟨_, .source opened isFile⟩
    | true =>
        have chosen : preparation.Chooses environment tree store := ⟨opened, isFile⟩
        cases overridden : preparation.overrides store.settings with
        | error bad => exact .inl ⟨_, .language chosen overridden⟩
        | ok overrides =>
            cases read : tree.read (preparation.source store.settings) with
            | error cause => exact .inl ⟨_, .unreadable chosen overridden read⟩
            | ok text =>
                have reads : preparation.Reads environment tree store overrides text :=
                  ⟨chosen, overridden, read⟩
                cases parsed : Document.parse text with
                | error error => exact .inl ⟨_, .malformed reads parsed⟩
                | ok document =>
                    cases compiled : compile environment document
                        (preparation.kept overrides store).settings overrides
                        preparation.formatter with
                    | error error =>
                        have refused := compile_eq_error_iff.mp compiled
                        exact .inl ⟨_, .compilation reads parsed refused⟩
                    | ok output =>
                        refine .inr ⟨store, overrides, output,
                          ⟨text, document, reads, parsed, compiled⟩, ?_⟩
                        refine reads.compiled fileSource ?_
                        rw [parsed]
                        exact congrArg (Except.map _) compiled
  · exact .inl ⟨message, .store refused⟩

end Preparation

/-! ## Runs -/

theorem run_plan (tree : FileTree) (path content : String) :
    (FileChange.plan path content : StateM FileTree FileChange).run tree =
      (⟨path, content, (tree.read path).toOption⟩, tree) := by
  have unfolded : (FileChange.plan path content : StateM FileTree FileChange).run tree =
      (match tree.read path with
      | .ok existing => pure ⟨path, content, some existing⟩
      | .error _ => pure ⟨path, content, none⟩ : StateM FileTree FileChange).run tree := rfl
  rw [unfolded]
  cases tree.read path <;> rfl

/-- Planning files only looks at what is there. -/
theorem run_planAll (tree : FileTree) (root : String) (files : List (String × String)) :
    (FileChange.planAll root files : StateM FileTree (List FileChange)).run tree =
      (files.map fun file => ⟨Path.join root file.1, file.2,
        (tree.read (Path.join root file.1)).toOption⟩, tree) := by
  unfold FileChange.planAll
  induction files with
  | nil => rfl
  | cons file files ih =>
      rw [List.mapM_cons, StateT.run_bind, run_plan]
      change StateT.run (_ >>= fun rest => pure (_ :: rest)) tree = _
      rw [StateT.run_bind, ih]
      rfl

/-- What planning files comes to in a run. -/
theorem yields_planAll (tree : FileTree) (root : String) (files : List (String × String)) :
    Yields tree (liftM (FileChange.planAll root files : StateM FileTree (List FileChange)) :
        ExceptT String (StateM FileTree) (List FileChange))
      (.ok (files.map fun file => ⟨Path.join root file.1, file.2,
        (tree.read (Path.join root file.1)).toOption⟩)) := by
  have unfolded : (liftM (FileChange.planAll root files : StateM FileTree (List FileChange)) :
      ExceptT String (StateM FileTree) (List FileChange)).run.run tree =
      (.ok ((FileChange.planAll root files : StateM FileTree _).run tree).1,
        ((FileChange.planAll root files : StateM FileTree _).run tree).2) := rfl
  rw [run_planAll] at unfolded
  exact unfolded

/-- The text of a module of an output, or of mock data. -/
inductive IsWritten (output : CompileOutput) : String → Prop
  | module {file : String × String} (isFile : file ∈ output.files) : IsWritten output file.2
  | mock {mocks : MockArtifact} {wrap : Bool} {file : String × String}
    (isFile : file ∈ mocks.files wrap) : IsWritten output file.2

/-- A plan keeps a store and writes texts of an output. -/
structure Plans (store : SettingsStore) (output : CompileOutput) (plan : RunPlan) : Prop where
  keeps : plan.store = store
  writes : ∀ change ∈ plan.changes, IsWritten output change.content

theorem isWritten_modules (tree : FileTree) (root : String) (output : CompileOutput) :
    ∀ change ∈ output.files.map fun file => (⟨Path.join root file.1, file.2,
        (tree.read (Path.join root file.1)).toOption⟩ : FileChange),
      IsWritten output change.content := by
  intro change isChange
  obtain ⟨file, isFile, rfl⟩ := List.mem_map.mp isChange
  exact .module isFile

theorem isWritten_mocks {tree : FileTree} {root : String} (output : CompileOutput)
    (mocks : MockArtifact) (wrap : Bool) :
    ∀ change ∈ (mocks.files wrap).map fun file => (⟨Path.join root file.1, file.2,
        (tree.read (Path.join root file.1)).toOption⟩ : FileChange),
      IsWritten output change.content := by
  intro change isChange
  obtain ⟨file, isFile, rfl⟩ := List.mem_map.mp isChange
  exact .mock isFile

theorem GenerateArguments.yields_planned (tree : FileTree) (store : SettingsStore)
    (output : CompileOutput) :
    ∃ plan, Plans store output plan ∧ Yields tree (planned store output) (.ok plan) := by
  have plansModules := yields_planAll tree store.settings.api.root output.files
  have areModules := isWritten_modules tree store.settings.api.root output
  unfold planned
  cases output.mocks? with
  | none =>
      exact ⟨⟨store, _ ++ [], _⟩, ⟨rfl, by simpa using areModules⟩,
        plansModules.bind ((yields_pure tree []).bind (yields_pure ..))⟩
  | some mocks =>
      have plansMocks := yields_planAll tree store.settings.mock.root
        (mocks.files store.settings.mock.wrap)
      exact ⟨⟨store, _ ++ _, _⟩,
        ⟨rfl, List.forall_mem_append.mpr ⟨areModules, isWritten_mocks output mocks _⟩⟩,
        plansModules.bind (plansMocks.bind (yields_pure ..))⟩

theorem MockArguments.yields_planned (tree : FileTree) (store : SettingsStore)
    {output : CompileOutput} (mocked : output.mocks?.isSome = true) :
    ∃ plan, Plans store output plan ∧ Yields tree (planned store output) (.ok plan) := by
  obtain ⟨mocks, isMocks⟩ := Option.isSome_iff_exists.mp mocked
  have plans := yields_planAll tree store.settings.mock.root
    (mocks.files store.settings.mock.wrap)
  unfold planned
  rw [isMocks]
  exact ⟨⟨store, _, _⟩, ⟨rfl, isWritten_mocks output mocks _⟩, plans.bind (yields_pure ..)⟩

/-- What a request finds out before it writes. -/
def Request.prepare? (environment : Environment (StateM FileTree)) :
    Request → Option (ExceptT String (StateM FileTree) RunPlan)
  | generate arguments => some (arguments.prepare environment)
  | mock arguments => some (arguments.prepare environment)
  | settings _ => none

/-- A request that reads a document has a plan, unless it is refused. -/
theorem prepare_cases {request : Request} (isRequest : request.preparation? = some preparation)
    (fileSource : preparation.HasFileSource environment tree) :
    ∃ prepares, request.prepare? environment = some prepares ∧
      (∀ message, preparation.Refused environment tree message →
        Yields tree prepares (.error message)) ∧
      ((∃ message, preparation.Refused environment tree message) ∨
        ∃ store overrides output plan,
          preparation.Compiles environment tree store overrides output ∧
            plan.store = preparation.kept overrides store ∧ Yields tree prepares (.ok plan)) := by
  cases request with
  | settings command => cases isRequest
  | generate arguments =>
      cases isRequest
      refine ⟨_, rfl, fun message refused => ?_, ?_⟩
      · rw [arguments.prepare_eq]
        exact (Preparation.compiled_of_refused fileSource refused).bind_error
      · refine (Preparation.refused_or_compiled fileSource).imp_right ?_
        rintro ⟨store, overrides, output, compiles, compiled⟩
        obtain ⟨plan, plans, planned⟩ := GenerateArguments.yields_planned tree
          (arguments.preparation.kept overrides store) output
        refine ⟨store, overrides, output, plan, compiles, plans.keeps, ?_⟩
        rw [arguments.prepare_eq]
        exact compiled.bind planned
  | mock arguments =>
      cases isRequest
      refine ⟨_, rfl, fun message refused => ?_, ?_⟩
      · rw [arguments.prepare_eq]
        exact (Preparation.compiled_of_refused fileSource refused).bind_error
      · refine (Preparation.refused_or_compiled fileSource).imp_right ?_
        rintro ⟨store, overrides, output, compiles, compiled⟩
        have mocked : output.mocks?.isSome = true := by
          obtain ⟨text, document, reads, -, done⟩ := compiles.compiles
          have isMock : overrides.mock = true := by
            cases reads.overridden
            rfl
          exact isSome_mocks_of_compile isMock done
        obtain ⟨plan, plans, planned⟩ := MockArguments.yields_planned tree
          (arguments.preparation.kept overrides store) mocked
        refine ⟨store, overrides, output, plan, compiles, plans.keeps, ?_⟩
        rw [arguments.prepare_eq]
        exact compiled.bind planned

/-- A run prepares a plan and then shows it or carries it out. -/
theorem run_eq {arguments : List String} {request : Request}
    {prepares : ExceptT String (StateM FileTree) RunPlan}
    (isRead : Request.read arguments = .ok request)
    (isRequest : request.preparation? = some preparation)
    (isPrepare : request.prepare? environment = some prepares) (tree : FileTree) :
    (run environment arguments).run tree =
      let finished := (prepares >>= RunPlan.finish environment preparation.shared.dryRun).run.run tree
      (outcomeOf "error: " finished.1, finished.2) := by
  unfold run
  rw [isRead]
  cases request with
  | settings command => cases isRequest
  | generate arguments =>
      cases isRequest
      cases isPrepare
      rfl
  | mock arguments =>
      cases isRequest
      cases isPrepare
      rfl

/-- A dry run and a run that is refused leave every file and directory as it is. A refused run
fails with the words for its reason. -/
theorem run_leaves_files {arguments : List String} {request : Request}
    (isRead : Request.read arguments = .ok request)
    (isRequest : request.preparation? = some preparation)
    (fileSource : preparation.HasFileSource environment tree) :
    (preparation.shared.dryRun = true → ((run environment arguments).run tree).2 = tree) ∧
      ∀ message, preparation.Refused environment tree message →
        (run environment arguments).run tree =
          ({ exitCode := 1, errors := "error: " ++ message ++ "\n" }, tree) := by
  obtain ⟨prepares, isPrepare, refusals, outcome⟩ := prepare_cases isRequest fileSource
  have refusedRun (message : String) (refused : preparation.Refused environment tree message) :
      (run environment arguments).run tree =
        ({ exitCode := 1, errors := "error: " ++ message ++ "\n" }, tree) := by
    have stops : Yields tree
        (prepares >>= RunPlan.finish environment preparation.shared.dryRun) (.error message) :=
      (refusals message refused).bind_error
    rw [run_eq isRead isRequest isPrepare, stops]
    rfl
  refine ⟨fun dryRun => ?_, refusedRun⟩
  rcases outcome with ⟨message, refused⟩ | ⟨store, overrides, output, plan, -, -, prepared⟩
  · rw [refusedRun message refused]
  · have shows : Yields tree
        (prepares >>= RunPlan.finish environment preparation.shared.dryRun)
        (.ok plan.preview) := by
      refine prepared.bind ?_
      rw [dryRun]
      exact yields_pure ..
    rw [run_eq isRead isRequest isPrepare, shows]

/-! A document that compiles, for a formatter that is missing and for a dry run. -/

/-- Surroundings without a home directory, a network and other programs. -/
def bareEnvironment : Environment (StateM FileTree) :=
  { home? := none
    fetch := fun _ _ => pure (.error "there is no network")
    elapsed := pure "0ms"
    isInstalled := fun _ => false
    runProgram := fun _ _ _ => ⟨1, "", ""⟩ }

/-- A settings file and a document. -/
def twoFiles : FileTree :=
  { entries :=
      [ (["rc.toml"], .text "[core]\nlang = \"js\"\n"),
        (["api.json"], .text "\x7b\"swagger\": \"2.0\"\x7d") ] }

/-- The flags of a run on the document. -/
def documentFlags : GenerateArguments :=
  { source := some "/api.json", config := some "/rc.toml" }

theorem run_leaves_twoFiles :
    (run bareEnvironment ["generate", "--source", "/api.json", "--config", "/rc.toml",
        "--formatter", "prettier"]).run twoFiles =
      ({ exitCode := 1
         errors := "error: prettier was not found on PATH " ++
           "(install it or use --formatter builtin)\n" }, twoFiles) ∧
    ((run bareEnvironment ["generate", "--source", "/api.json", "--config", "/rc.toml",
        "--dry-run"]).run twoFiles).2 = twoFiles := by
  have isLocal : Url.isWeb "/api.json" = false := by decide +kernel
  have opened : Opens bareEnvironment twoFiles (some "/rc.toml")
      ⟨"/rc.toml", { core := { language := "js" } }⟩ :=
    ⟨rfl, .inr ⟨by decide +kernel, _, rfl, by decide +kernel⟩⟩
  obtain ⟨document, parsed⟩ : ∃ document,
      Document.parse "\x7b\"swagger\": \"2.0\"\x7d" = .ok document :=
    Compile.exists_eq_ok_of_isOk (by decide +kernel)
  have refused : ({ documentFlags with formatter := some .prettier } :
        GenerateArguments).preparation.Refused bareEnvironment twoFiles
      "prettier was not found on PATH (install it or use --formatter builtin)" :=
    .compilation ⟨⟨opened, by decide +kernel⟩, rfl, rfl⟩ parsed (.missingFormatter rfl rfl rfl)
  have readsFormatter : Request.read ["generate", "--source", "/api.json", "--config", "/rc.toml",
      "--formatter", "prettier"] =
    .ok (.generate { documentFlags with formatter := some .prettier }) := rfl
  have readsDryRun : Request.read ["generate", "--source", "/api.json", "--config", "/rc.toml",
      "--dry-run"] = .ok (.generate { documentFlags with dryRun := true }) := rfl
  exact ⟨(run_leaves_files readsFormatter rfl fun _ _ => isLocal).2 _ refused,
    (run_leaves_files readsDryRun rfl fun _ _ => isLocal).1 rfl⟩

end TypedClient.Command
