/-
# What a run keeps

A run that gets as far as writing keeps the settings it has loaded, changed by its flags, and
writes files that are no settings. Any other run leaves the settings file as it is. Sources
on the web are included here, so that fetching a document must not touch files.
-/

import TypedClient.Proofs.Command.Applying
import TypedClient.Proofs.Command.Output

namespace TypedClient.Command

/-- Surroundings that keep to their part: fetching a document and telling the time leave files
alone, and formatted code is no settings document. -/
structure IsOrdinary (environment : Environment (StateM FileTree)) : Prop where
  fetches : ∀ url cookie tree, ((environment.fetch url cookie).run tree).2 = tree
  tells : ∀ tree, (environment.elapsed.run tree).2 = tree
  writesCode : ∀ prettier : Prettier, (prettier.formatter environment.runProgram).WritesCode

variable {environment : Environment (StateM FileTree)} {tree : FileTree}
  {preparation : Preparation}

/-! ## Reading -/

/-- An action only reads, and what it finds has a property. -/
def Finds {ε α : Type} (tree : FileTree) (action : ExceptT ε (StateM FileTree) α)
    (property : α → Prop) : Prop :=
  ∃ result, Yields tree action result ∧ ∀ value, result = .ok value → property value

section

variable {ε α β : Type} {action : ExceptT ε (StateM FileTree) α}
  {next : α → ExceptT ε (StateM FileTree) β} {found : α → Prop} {property : β → Prop}

theorem Finds.bind (first : Finds tree action found)
    (second : ∀ value, found value → Finds tree (next value) property) :
    Finds tree (action >>= next) property := by
  obtain ⟨result, yields, holds⟩ := first
  cases result with
  | error error => exact ⟨_, yields.bind_error, nofun⟩
  | ok value =>
      obtain ⟨last, yieldsLast, holdsLast⟩ := second value (holds value rfl)
      exact ⟨last, yields.bind yieldsLast, holdsLast⟩

theorem finds_pure {value : α} (holds : found value) :
    Finds tree (pure value : ExceptT ε (StateM FileTree) α) found :=
  ⟨.ok value, yields_pure tree value, fun _ same => Except.ok.inj same ▸ holds⟩

theorem finds_throw (tree : FileTree) (error : ε) (found : α → Prop) :
    Finds tree (throw error : ExceptT ε (StateM FileTree) α) found :=
  ⟨.error error, yields_throw tree error, nofun⟩

theorem finds_ofExcept (tree : FileTree) (given : Except ε α) :
    Finds tree (MonadExcept.ofExcept given : ExceptT ε (StateM FileTree) α) (given = .ok ·) :=
  ⟨given, yields_ofExcept tree rfl, fun _ same => same⟩

end

theorem Opens.unique {config : Option String} {store other : SettingsStore}
    (first : Opens environment tree config store) (second : Opens environment tree config other) :
    store = other :=
  Except.ok.inj ((openStore_of_opens first).unique (openStore_of_opens second))

theorem finds_openStore (environment : Environment (StateM FileTree)) (tree : FileTree)
    (config : Option String) :
    Finds tree (openStore environment config) (Opens environment tree config) := by
  rcases opens_or_refused environment tree config with ⟨store, opened⟩ | ⟨message, refused⟩
  · exact ⟨.ok store, openStore_of_opens opened, fun _ same => Except.ok.inj same ▸ opened⟩
  · exact ⟨_, openStore_of_refused refused, nofun⟩

theorem finds_chooseSource (tree : FileTree) (shared : SharedArguments) (settings : Settings) :
    Finds tree (chooseSource shared settings) (· = shared.source.getD settings.core.source) := by
  have checks : Finds tree (checkSource (shared.source.getD settings.core.source))
      (fun _ => True) := by
    unfold checkSource
    refine Finds.bind ⟨_, yields_isFile tree _, fun _ _ => trivial⟩ fun isFile _ => ?_
    split
    · exact finds_throw ..
    · exact finds_pure trivial
  unfold chooseSource
  exact checks.bind fun _ _ => finds_pure rfl

theorem finds_readDocument (ordinary : IsOrdinary environment) (tree : FileTree) (source : String)
    (settings : Settings) :
    Finds tree (readDocument environment source settings) (fun _ => True) := by
  have loads : Finds tree (loadSource environment source settings.api.cookie)
      (fun _ => True) := by
    unfold loadSource
    split
    · have left := ordinary.fetches source settings.api.cookie tree
      exact ⟨((environment.fetch source settings.api.cookie).run tree).1,
        Prod.ext rfl left, fun _ _ => trivial⟩
    · refine Finds.bind ⟨_, yields_read tree source, fun _ _ => trivial⟩ fun read _ => ?_
      split
      · exact finds_pure trivial
      · exact finds_throw ..
  unfold readDocument
  refine loads.bind fun text _ => ?_
  exact ⟨_, yields_ofExcept tree rfl, fun _ _ => trivial⟩

/-! ## Plans -/

/-- What a plan keeps comes from the settings that were loaded and the flags, and none of its files
is a settings document. -/
structure Preparation.Settles (environment : Environment (StateM FileTree)) (tree : FileTree)
    (preparation : Preparation) (loaded : SettingsStore) (overrides : Overrides)
    (store : SettingsStore) (contents : String → Prop) : Prop where
  opened : Opens environment tree preparation.shared.config loaded
  overridden : preparation.overrides loaded.settings = .ok overrides
  keeps : store = preparation.kept overrides loaded
  writesCode : ∀ content, contents content → Toml.Document.parse? content = none

theorem writesCode_formatterFor (ordinary : IsOrdinary environment) {choice : FormatterChoice}
    {layout : Formatter} (found : formatterFor environment choice = .ok layout) :
    layout.WritesCode := by
  unfold formatterFor at found
  cases choice with
  | builtin =>
      cases found
      exact Formatter.writesCode_layout
  | prettier =>
      dsimp only at found
      split at found
      · cases found
        exact ordinary.writesCode _
      · cases found

/-- Nothing that a run compiles is a settings document. -/
theorem parse?_of_compile (ordinary : IsOrdinary environment) {document : Document}
    {settings : Settings} {overrides : Overrides} {flag : Option FormatterChoice}
    {output : CompileOutput}
    (done : compile environment document settings overrides flag = .ok output) {content : String}
    (isWritten : IsWritten output content) : Toml.Document.parse? content = none := by
  obtain ⟨config, -, done⟩ := Compile.eq_ok_of_bind done
  obtain ⟨choice, -, done⟩ := Compile.eq_ok_of_bind done
  obtain ⟨layout, found, done⟩ := Compile.eq_ok_of_bind done
  cases compiled : document.compile config layout .builtin with
  | error error =>
      rw [compiled] at done
      cases done
  | ok result =>
      rw [compiled] at done
      cases done
      cases isWritten with
      | module isFile =>
          exact Compile.parse?_files (writesCode_formatterFor ordinary found) compiled _ isFile
      | mock isFile => exact MockArtifact.parse?_files _ _ _ isFile

theorem finds_compiled (ordinary : IsOrdinary environment) (tree : FileTree)
    (preparation : Preparation) :
    Finds tree (preparation.compiled environment) fun compiled => ∃ loaded overrides,
      preparation.Settles environment tree loaded overrides compiled.1 (IsWritten compiled.2) := by
  unfold Preparation.compiled
  refine (finds_openStore environment tree _).bind fun loaded opened => ?_
  refine (finds_chooseSource tree _ _).bind fun source isSource => ?_
  refine (finds_ofExcept tree _).bind fun overrides overridden => ?_
  refine (finds_readDocument ordinary tree _ _).bind fun document _ => ?_
  refine (finds_ofExcept tree _).bind fun output compiled => ?_
  refine finds_pure ⟨loaded, overrides, opened, overridden, ?_, fun content isWritten =>
    parse?_of_compile ordinary compiled isWritten⟩
  rw [isSource]
  rfl

theorem Preparation.Settles.of_subset {loaded store : SettingsStore} {overrides : Overrides}
    {contents fewer : String → Prop}
    (settles : preparation.Settles environment tree loaded overrides store contents)
    (isSubset : ∀ content, fewer content → contents content) :
    preparation.Settles environment tree loaded overrides store fewer :=
  ⟨settles.opened, settles.overridden, settles.keeps,
    fun content isContent => settles.writesCode content (isSubset content isContent)⟩

/-- A plan that comes from the settings that were loaded. -/
def Preparation.SettlesPlan (environment : Environment (StateM FileTree)) (tree : FileTree)
    (preparation : Preparation) (plan : RunPlan) : Prop :=
  ∃ loaded overrides, preparation.Settles environment tree loaded overrides plan.store
    (· ∈ plan.changes.map (·.content))

theorem Plans.settlesPlan {compiled : SettingsStore × CompileOutput} {plan : RunPlan}
    (plans : Plans compiled.1 compiled.2 plan)
    (settles : ∃ loaded overrides,
      preparation.Settles environment tree loaded overrides compiled.1 (IsWritten compiled.2)) :
    preparation.SettlesPlan environment tree plan := by
  obtain ⟨loaded, overrides, settles⟩ := settles
  rw [← plans.keeps] at settles
  refine ⟨loaded, overrides, settles.of_subset fun content isContent => ?_⟩
  obtain ⟨change, isChange, rfl⟩ := List.mem_map.mp isContent
  exact plans.writes change isChange

/-- What a request is about to write comes from the settings it has loaded. -/
theorem finds_prepare (ordinary : IsOrdinary environment) {request : Request}
    (isRequest : request.preparation? = some preparation) (tree : FileTree) :
    ∃ prepares, request.prepare? environment = some prepares ∧
      Finds tree prepares (preparation.SettlesPlan environment tree) := by
  cases request with
  | settings command => cases isRequest
  | generate arguments =>
      cases isRequest
      refine ⟨_, rfl, ?_⟩
      rw [arguments.prepare_eq]
      refine (finds_compiled ordinary tree _).bind fun compiled settles => ?_
      obtain ⟨plan, plans, planned⟩ :=
        GenerateArguments.yields_planned tree compiled.1 compiled.2
      exact ⟨_, planned, fun _ same => Except.ok.inj same ▸ plans.settlesPlan settles⟩
  | mock arguments =>
      cases isRequest
      refine ⟨_, rfl, ?_⟩
      rw [arguments.prepare_eq]
      refine (finds_compiled ordinary tree _).bind fun compiled settles => ?_
      cases isMocks : compiled.2.mocks? with
      | none =>
          unfold MockArguments.planned
          rw [isMocks]
          exact finds_throw ..
      | some mocks =>
          obtain ⟨plan, plans, planned⟩ :=
            MockArguments.yields_planned tree compiled.1 (isMocks ▸ rfl : compiled.2.mocks?.isSome)
          exact ⟨_, planned, fun _ same => Except.ok.inj same ▸ plans.settlesPlan settles⟩

/-! ## Writing -/

/-- The action that saves a store. -/
def saving (store : SettingsStore) : ExceptT StoreError (StateM FileTree) Unit := store.save

/-- Only the words for a failure to save are changed. -/
theorem run_adapt_save (store : SettingsStore) (tree : FileTree) :
    (ExceptT.adapt StoreError.message store.save : ExceptT String (StateM FileTree) Unit).run.run
        tree = (((saving store).run.run tree).1.mapError StoreError.message,
      ((saving store).run.run tree).2) := rfl

/-- A plan that is carried out saves its settings and then writes its files. -/
theorem run_finish (ordinary : IsOrdinary environment) (plan : RunPlan) (tree : FileTree) :
    ((plan.finish environment false).run.run tree).2 =
      match (saving plan.store).run.run tree with
      | (.error _, after) => after
      | (.ok _, saved) => ((FileChange.applyAll plan.changes {} :
          ExceptT String (StateM FileTree) WriteSummary).run.run saved).2 := by
  have adapted := run_adapt_save plan.store tree
  unfold RunPlan.finish
  rw [if_neg Bool.false_ne_true]
  cases saved : (saving plan.store).run.run tree with
  | mk result after =>
      rw [saved] at adapted
      cases result with
      | error error =>
          exact congrArg Prod.snd (run_bind_of_error (run_bind_of_error adapted))
      | ok done =>
          dsimp only
          cases applied : (FileChange.applyAll plan.changes {} :
              ExceptT String (StateM FileTree) WriteSummary).run.run after with
          | mk result last =>
              have carried : (plan.carryOut : ExceptT String (StateM FileTree)
                  WriteSummary).run.run tree = (result, last) :=
                (run_bind_of_ok adapted).trans applied
              cases result with
              | error message => exact congrArg Prod.snd (run_bind_of_error carried)
              | ok summary =>
                  exact (congrArg Prod.snd (run_bind_of_ok carried)).trans (ordinary.tells last)

/-- A run saves its settings, starting from those it has loaded. -/
structure Saves (environment : Environment (StateM FileTree)) (tree : FileTree) (request : Request)
    (preparation : Preparation) (loaded : SettingsStore) : Prop where
  isRequest : request.preparation? = some preparation
  notDry : preparation.shared.dryRun = false
  opened : Opens environment tree preparation.shared.config loaded
  saved : ∃ prepares plan after, request.prepare? environment = some prepares ∧
    Yields tree prepares (.ok plan) ∧ (saving plan.store).run.run tree = (.ok (), after)

theorem path_of_opens {config : Option String} {store : SettingsStore} {path : String}
    (located : settingsPath? environment config = some path)
    (opened : Opens environment tree config store) : store.path = path :=
  Option.some.inj (opened.located.symm.trans located)

/-- What a run leaves in the settings file: what was there, if it does not save its settings, or
else its settings, unless one of its files has taken their place. -/
theorem run_cases (ordinary : IsOrdinary environment) {arguments : List String}
    {request : Request} {path : String} (isRead : Request.read arguments = .ok request)
    (isRequest : request.preparation? = some preparation)
    (located : settingsPath? environment preparation.shared.config = some path)
    (tree : FileTree) :
    (settingsText? path ((run environment arguments).run tree).2 = settingsText? path tree ∧
        ∀ loaded, ¬ Saves environment tree request preparation loaded) ∨
      ∃ loaded overrides text, Saves environment tree request preparation loaded ∧
        preparation.overrides loaded.settings = .ok overrides ∧
        settingsText? path ((run environment arguments).run tree).2 = some text ∧
        (text = (preparation.kept overrides loaded).settings.save (settingsText? path tree) ∨
          Toml.Document.parse? text = none) := by
  obtain ⟨prepares, isPrepare, result, yields, settles⟩ := finds_prepare ordinary isRequest tree
  have unique (plan : RunPlan) (other : ExceptT String (StateM FileTree) RunPlan)
      (isOther : request.prepare? environment = some other)
      (yieldsOther : Yields tree other (.ok plan)) : result = .ok plan := by
    cases isPrepare.symm.trans isOther
    exact yields.unique yieldsOther
  rw [run_eq isRead isRequest isPrepare]
  dsimp only
  cases result with
  | error message =>
      refine .inl ⟨?_, fun loaded saves => ?_⟩
      · rw [yields.bind_error]
      · obtain ⟨other, plan, -, isOther, yieldsOther, -⟩ := saves.saved
        cases unique plan other isOther yieldsOther
  | ok plan =>
      rw [yields.run_bind]
      obtain ⟨loaded, overrides, settled⟩ := settles plan rfl
      have isPath : plan.store.path = path := by
        rw [settled.keeps]
        exact (path_of_opens located settled.opened : loaded.path = path)
      cases dryRun : preparation.shared.dryRun with
      | true => exact .inl ⟨rfl, fun loaded saves => absurd (saves.notDry.symm.trans dryRun) nofun⟩
      | false =>
          rw [run_finish ordinary]
          obtain ⟨saved, ⟨isSaved, found⟩ | ⟨⟨error, failed⟩, same⟩⟩ := save_cases plan.store tree
          · have isSaving : (saving plan.store).run.run tree = (.ok (), saved) := isSaved
            rw [isPath] at found
            obtain ⟨held, isHeld, isText⟩ := keepsOrReplaces_applyAll plan.changes {} found
            refine .inr ⟨loaded, overrides, held, ⟨isRequest, dryRun, settled.opened, prepares, plan,
              saved, isPrepare, yields, isSaving⟩, settled.overridden, ?_, ?_⟩
            · rw [isSaving]
              exact settingsText?_of_find? isHeld
            · rw [← settled.keeps]
              exact isText.imp_right (settled.writesCode held)
          · have isSaving : (saving plan.store).run.run tree = (.error error, saved) := failed
            refine .inl ⟨?_, fun loaded saves => ?_⟩
            · rw [isSaving, ← isPath]
              exact same
            · obtain ⟨other, otherPlan, after, isOther, yieldsOther, isSaved⟩ := saves.saved
              cases unique otherPlan other isOther yieldsOther
              cases isSaving.symm.trans isSaved

/-- A run whose files are there already changes no more than its settings. -/
theorem run_of_unchanged (ordinary : IsOrdinary environment) {arguments : List String}
    {request : Request} {prepares : ExceptT String (StateM FileTree) RunPlan} {plan : RunPlan}
    {saved : FileTree} (isRead : Request.read arguments = .ok request)
    (isRequest : request.preparation? = some preparation)
    (notDry : preparation.shared.dryRun = false)
    (isPrepare : request.prepare? environment = some prepares)
    (yields : Yields tree prepares (.ok plan))
    (unchanged : ∀ change ∈ plan.changes, change.existing = some change.content)
    (isSaved : (saving plan.store).run.run tree = (.ok (), saved)) :
    ((run environment arguments).run tree).2 = saved := by
  have skips := FileChange.allApplied_of_isCurrent unchanged {} saved
  rw [run_eq isRead isRequest isPrepare, yields.run_bind, notDry, run_finish ordinary, isSaved]
  exact congrArg Prod.snd skips

/-- A command on stored settings ends with what it has to say. -/
theorem run_settings_eq {arguments : List String} {command : SettingsCommand}
    (isRead : Request.read arguments = .ok (.settings command)) (tree : FileTree) :
    (run environment arguments).run tree =
      (outcomeOf "" ((runSettings environment command).run.run tree).1,
        ((runSettings environment command).run.run tree).2) := by
  unfold run
  rw [isRead]
  rfl

theorem run_settings {arguments : List String} {command : SettingsCommand}
    (isRead : Request.read arguments = .ok (.settings command)) (tree : FileTree) :
    ((run environment arguments).run tree).2 =
      ((runSettings environment command).run.run tree).2 :=
  congrArg Prod.snd (run_settings_eq isRead tree)

/-- A command on stored settings leaves the settings file or puts the defaults into it. -/
theorem settings_cases {arguments : List String} {command : SettingsCommand} {path : String}
    (isRead : Request.read arguments = .ok (.settings command))
    (located : settingsPath? environment none = some path) (tree : FileTree) :
    settingsText? path ((run environment arguments).run tree).2 = settingsText? path tree ∨
      settingsText? path ((run environment arguments).run tree).2 =
        some (({} : Settings).save (settingsText? path tree)) := by
  obtain ⟨result, yields, opens⟩ := finds_openStore environment tree none
  rw [run_settings isRead]
  cases command with
  | print =>
      refine .inl (congrArg (settingsText? path) ?_)
      unfold runSettings
      cases result with
      | error message => rw [yields.bind_error]
      | ok store =>
          rw [yields.run_bind]
          rfl
  | path =>
      refine .inl (congrArg (settingsText? path) ?_)
      unfold runSettings
      cases environment.home? <;> rfl
  | reset =>
      unfold runSettings
      cases result with
      | error message =>
          rw [yields.bind_error]
          exact .inl rfl
      | ok store =>
          rw [yields.run_bind]
          have isPath : (store.update fun _ => {}).path = path :=
            (path_of_opens located (opens store rfl) : store.path = path)
          have adapted := run_adapt_save (store.update fun _ => {}) tree
          obtain ⟨saved, ⟨isSaved, found⟩ | ⟨⟨error, failed⟩, same⟩⟩ :=
            save_cases (store.update fun _ => {}) tree
          · have isSaving : (saving (store.update fun _ => {})).run.run tree = (.ok (), saved) :=
              isSaved
            rw [isSaving] at adapted
            rw [run_bind_of_ok adapted]
            refine .inr ?_
            rw [isPath] at found
            exact settingsText?_of_find? found
          · have isSaving : (saving (store.update fun _ => {})).run.run tree =
                (.error error, saved) := failed
            rw [isSaving] at adapted
            rw [run_bind_of_error adapted]
            refine .inl ?_
            rw [isPath] at same
            exact same

end TypedClient.Command
