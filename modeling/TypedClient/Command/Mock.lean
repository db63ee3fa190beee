/-
# Writing mock data

The command that writes mock data alone. Request functions are not compiled for it.
-/

import TypedClient.Command.Plan

namespace TypedClient.Command.MockArguments

/-- The change to the mock settings that makes flags the new defaults. -/
def mockUpdate (arguments : MockArguments) : MockUpdate :=
  { root := arguments.out, wrap := if arguments.wrap then some true else none }

/-- The flags that go before stored settings. -/
def overrides (arguments : MockArguments) : Overrides :=
  { tags := arguments.tags, typeOnly := true, mock := true }

variable {m : Type → Type} [Monad m] [FileAccess m]

/-- Finds out what a run would write. -/
def prepare (environment : Environment m) (arguments : MockArguments) :
    ExceptT String m RunPlan := do
  let store ← openStore environment arguments.config
  let source ← chooseSource arguments.toSharedArguments store.settings
  let store := store.update fun settings =>
    (settings.recordSource source).mergeMock arguments.mockUpdate
  let document ← readDocument environment source store.settings
  let store := store.update (·.mergeApi { tags := arguments.tags })
  let settings := store.settings
  let output ← MonadExcept.ofExcept (compile environment document settings arguments.overrides none)
  match output.mocks? with
  | none => throw "Compiler produced no mock data"
  | some mocks =>
    let root := settings.mock.root
    let changes ← FileChange.planAll (m := m) root (mocks.files settings.mock.wrap)
    pure ⟨store, changes, s!"Wrote {mocks.entries.length} mock entries to {root}"⟩

/-- Writes mock data, and gives what there is to say. -/
def run (environment : Environment m) (arguments : MockArguments) : ExceptT String m String := do
  (← arguments.prepare environment).finish environment arguments.dryRun

end TypedClient.Command.MockArguments
