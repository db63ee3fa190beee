/-
# Generating modules

The command that compiles a document to its modules, and to mock data if it is asked to. Its flags
become stored settings.
-/

import TypedClient.Command.Plan

namespace TypedClient.Command.GenerateArguments

/-- The flags that go before stored settings. -/
def overrides (arguments : GenerateArguments) (language : Language) : Overrides :=
  { language := some language
    naming := arguments.naming
    template := arguments.template
    interfaceImportPath := arguments.interfacePath
    tags := arguments.tags
    typeOnly := arguments.typeOnly
    mock := arguments.mock }

/-- The language of a run: the one given, else the stored one. -/
def chooseLanguage (arguments : GenerateArguments) (settings : Settings) : Except String Language :=
  match arguments.language with
  | some language => .ok language
  | none => Language.parse settings.core.language

/-- The settings that a run leaves. -/
def updated (arguments : GenerateArguments) (overrides : Overrides) (settings : Settings) :
    Settings :=
  (settings.mergeCore overrides.coreUpdate).mergeApi
    (overrides.apiUpdate arguments.formatter arguments.out)

variable {m : Type → Type} [Monad m] [FileAccess m]

/-- Finds out what a run would write. -/
def prepare (environment : Environment m) (arguments : GenerateArguments) :
    ExceptT String m RunPlan := do
  let store ← openStore environment arguments.config
  let source ← chooseSource arguments.toSharedArguments store.settings
  let language ← MonadExcept.ofExcept (arguments.chooseLanguage store.settings)
  let store := store.update (·.recordSource source)
  let document ← readDocument environment source store.settings
  let overrides := arguments.overrides language
  let store := store.update (arguments.updated overrides)
  let settings := store.settings
  let output ← MonadExcept.ofExcept
    (compile environment document settings overrides arguments.formatter)
  let modules ← FileChange.planAll (m := m) settings.api.root output.files
  let mocks ← match output.mocks? with
    | some mocks => FileChange.planAll (m := m) settings.mock.root (mocks.files settings.mock.wrap)
    | none => pure []
  pure ⟨store, modules ++ mocks, "Generated " ++ settings.api.root⟩

/-- Generates modules, and gives what there is to say. -/
def run (environment : Environment m) (arguments : GenerateArguments) :
    ExceptT String m String := do
  (← arguments.prepare environment).finish environment arguments.dryRun

end TypedClient.Command.GenerateArguments
