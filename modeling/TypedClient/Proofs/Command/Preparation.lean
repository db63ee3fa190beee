/-
# What a run finds out before it writes

Both commands that read a document go through the same steps before they write anything:
they open the settings, choose and read the source, and compile the document under the
settings they are about to keep. On a tree of files these steps only read. They stop at
the first thing that is wrong, and what can be wrong is listed here in the order in which
it is noticed.
-/

import TypedClient.Command.Run

namespace TypedClient.Command

/-! ## Actions on a tree of files -/

section

variable {ε α β : Type} {tree after : FileTree} {action : ExceptT ε (StateM FileTree) α}
  {next : α → ExceptT ε (StateM FileTree) β} {value : α} {error : ε}

/-- What follows an action goes on from the tree that it leaves. -/
theorem run_bind_of_ok (first : action.run.run tree = (.ok value, after)) :
    (action >>= next).run.run tree = (next value).run.run after := by
  have unfolded : (action >>= next).run.run tree =
      (ExceptT.bindCont next (action.run.run tree).1) (action.run.run tree).2 := rfl
  rw [unfolded, first]
  rfl

theorem run_bind_of_error (first : action.run.run tree = (.error error, after)) :
    (action >>= next).run.run tree = (.error error, after) := by
  have unfolded : (action >>= next).run.run tree =
      (ExceptT.bindCont next (action.run.run tree).1) (action.run.run tree).2 := rfl
  rw [unfolded, first]
  rfl

end

/-- An action comes to a result on a tree of files and leaves the tree as it is. -/
def Yields {ε α : Type} (tree : FileTree) (action : ExceptT ε (StateM FileTree) α)
    (result : Except ε α) : Prop :=
  action.run.run tree = (result, tree)

section

variable {ε α β : Type} {tree : FileTree} {action : ExceptT ε (StateM FileTree) α}
  {next : α → ExceptT ε (StateM FileTree) β} {value : α} {error : ε}

theorem yields_pure (tree : FileTree) (value : α) :
    Yields tree (pure value : ExceptT ε (StateM FileTree) α) (.ok value) := rfl

theorem yields_throw (tree : FileTree) (error : ε) :
    Yields tree (throw error : ExceptT ε (StateM FileTree) α) (.error error) := rfl

theorem yields_ofExcept (tree : FileTree) {given result : Except ε α} (comes : given = result) :
    Yields tree (MonadExcept.ofExcept given) result := by
  subst comes
  cases given <;> rfl

theorem yields_holds (tree : FileTree) (path : String) :
    Yields tree (liftM (FileAccess.holds path : StateM FileTree Bool) :
      ExceptT ε (StateM FileTree) Bool) (.ok (tree.holds path)) := rfl

theorem yields_isFile (tree : FileTree) (path : String) :
    Yields tree (liftM (FileAccess.isFile path : StateM FileTree Bool) :
      ExceptT ε (StateM FileTree) Bool) (.ok (tree.isFile path)) := rfl

theorem yields_read (tree : FileTree) (path : String) :
    Yields tree (liftM (FileAccess.read path : StateM FileTree (Except FileError String)) :
      ExceptT ε (StateM FileTree) (Except FileError String)) (.ok (tree.read path)) := rfl

/-- What follows an action that only reads starts from the same tree. -/
theorem Yields.run_bind (first : Yields tree action (.ok value)) :
    (action >>= next).run.run tree = (next value).run.run tree :=
  run_bind_of_ok first

theorem Yields.bind {result : Except ε β} (first : Yields tree action (.ok value))
    (second : Yields tree (next value) result) : Yields tree (action >>= next) result :=
  first.run_bind.trans second

/-- Nothing follows an action that fails. -/
theorem Yields.bind_error (first : Yields tree action (.error error)) :
    Yields tree (action >>= next) (.error error) :=
  run_bind_of_error first

theorem Yields.adapt {result : Except ε α} (yields : Yields tree action result)
    (words : ε → β) : Yields tree (ExceptT.adapt words action) (result.mapError words) := by
  have unfolded : (ExceptT.adapt words action).run.run tree =
      ((action.run.run tree).1.mapError words, (action.run.run tree).2) := rfl
  rw [Yields, unfolded, yields]

/-- An action comes to one result only. -/
theorem Yields.unique {result other : Except ε α} (first : Yields tree action result)
    (second : Yields tree action other) : result = other :=
  congrArg Prod.fst (first.symm.trans second)

end

/-! ## The steps that both commands share -/

/-- What a command makes of its flags before anything is written. -/
structure Preparation where
  shared : SharedArguments
  /-- The flags that go before stored settings, as far as those can be read. -/
  overrides : Settings → Except String Overrides
  /-- The settings that a run on a source keeps. -/
  settle : (source : String) → Overrides → Settings → Settings
  formatter : Option FormatterChoice

namespace Preparation

/-- Opens the settings, reads the source and compiles it. -/
def compiled {m : Type → Type} [Monad m] [FileAccess m] (preparation : Preparation)
    (environment : Environment m) : ExceptT String m (SettingsStore × CompileOutput) := do
  let store ← openStore environment preparation.shared.config
  let source ← chooseSource preparation.shared store.settings
  let overrides ← MonadExcept.ofExcept (preparation.overrides store.settings)
  let document ← readDocument environment source store.settings
  let store := store.update (preparation.settle source overrides)
  let output ← MonadExcept.ofExcept
    (compile environment document store.settings overrides preparation.formatter)
  pure (store, output)

end Preparation

/-- What generating makes of its flags. -/
def GenerateArguments.preparation (arguments : GenerateArguments) : Preparation :=
  { shared := arguments.toSharedArguments
    overrides := fun settings => (arguments.chooseLanguage settings).map arguments.overrides
    settle := fun source overrides settings =>
      arguments.updated overrides (settings.recordSource source)
    formatter := arguments.formatter }

/-- What mocking makes of its flags. -/
def MockArguments.preparation (arguments : MockArguments) : Preparation :=
  { shared := arguments.toSharedArguments
    overrides := fun _ => .ok arguments.overrides
    settle := fun source _ settings =>
      ((settings.recordSource source).mergeMock arguments.mockUpdate).mergeApi
        { tags := arguments.tags }
    formatter := none }

/-- What a request makes of its flags, if it reads a document. -/
def Request.preparation? : Request → Option Preparation
  | generate arguments => some arguments.preparation
  | mock arguments => some arguments.preparation
  | settings _ => none

theorem ofExcept_map_bind {m : Type → Type} [Monad m] [LawfulMonad m] {α β γ : Type}
    (result : Except String α) (f : α → β) (next : β → ExceptT String m γ) :
    MonadExcept.ofExcept (result.map f) >>= next =
      MonadExcept.ofExcept result >>= fun value => next (f value) := by
  refine ExceptT.ext ?_
  cases result <;> simp [MonadExcept.ofExcept, Except.map]

theorem cookie_recordSource (source : String) (settings : Settings) :
    (settings.recordSource source).api.cookie = settings.api.cookie := by
  unfold Settings.recordSource
  dsimp only
  split <;> rfl

section

variable {m : Type → Type} [Monad m] [FileAccess m]

/-- Recording the source first does not change how it is read. -/
theorem readDocument_recordSource (environment : Environment m) (source recorded : String)
    (settings : Settings) :
    readDocument environment source (settings.recordSource recorded) =
      readDocument environment source settings := by
  unfold readDocument
  rw [cookie_recordSource]

/-- The modules and mock files to write after generating. -/
def GenerateArguments.planned (store : SettingsStore) (output : CompileOutput) :
    ExceptT String m RunPlan := do
  let settings := store.settings
  let modules ← FileChange.planAll (m := m) settings.api.root output.files
  let mocks ← match output.mocks? with
    | some mocks => FileChange.planAll (m := m) settings.mock.root (mocks.files settings.mock.wrap)
    | none => pure []
  pure ⟨store, modules ++ mocks, "Generated " ++ settings.api.root⟩

/-- The mock files to write after mocking. -/
def MockArguments.planned (store : SettingsStore) (output : CompileOutput) :
    ExceptT String m RunPlan := do
  match output.mocks? with
  | none => throw "Compiler produced no mock data"
  | some mocks =>
    let root := store.settings.mock.root
    let changes ← FileChange.planAll (m := m) root (mocks.files store.settings.mock.wrap)
    pure ⟨store, changes, s!"Wrote {mocks.entries.length} mock entries to {root}"⟩

variable [LawfulMonad m]

theorem GenerateArguments.prepare_eq (environment : Environment m)
    (arguments : GenerateArguments) :
    arguments.prepare environment =
      arguments.preparation.compiled environment >>= fun compiled =>
        planned compiled.1 compiled.2 := by
  unfold prepare Preparation.compiled planned
  simp only [bind_assoc, pure_bind]
  refine congrArg (_ >>= ·) (funext fun store => congrArg (_ >>= ·) (funext fun source => ?_))
  have reading : readDocument environment source (store.update (·.recordSource source)).settings =
      readDocument environment source store.settings :=
    readDocument_recordSource environment source source store.settings
  rw [reading]
  simp only [preparation, ofExcept_map_bind]
  rfl

theorem MockArguments.prepare_eq (environment : Environment m) (arguments : MockArguments) :
    arguments.prepare environment =
      arguments.preparation.compiled environment >>= fun compiled =>
        planned compiled.1 compiled.2 := by
  unfold prepare Preparation.compiled planned
  simp only [bind_assoc, pure_bind]
  refine congrArg (_ >>= ·) (funext fun store => congrArg (_ >>= ·) (funext fun source => ?_))
  have reading : readDocument environment source (store.update fun settings =>
        (settings.recordSource source).mergeMock arguments.mockUpdate).settings =
      readDocument environment source store.settings :=
    readDocument_recordSource environment source source store.settings
  rw [reading]
  have noFault : (MonadExcept.ofExcept (arguments.preparation.overrides store.settings) :
      ExceptT String m Overrides) = pure arguments.overrides := rfl
  rw [noFault, pure_bind]
  rfl

end

end TypedClient.Command
