/-
# Runs of the program

A run reads its arguments and carries out the command they name. It ends with code 0 if it
succeeds, 1 if the command fails, and 2 if the arguments cannot be read.
-/

import TypedClient.Command.Generate
import TypedClient.Command.Mock
import TypedClient.Settings.Show

namespace TypedClient.Command

/-- What help says. -/
def helpText : String :=
  String.join
    [ "swaggen turns OpenAPI and Swagger documents into typed API clients\n\n",
      "Usage: swaggen <COMMAND> [OPTIONS]\n\nCommands:\n",
      "  generate  Generate interface and request modules\n",
      "  mock      Generate mock response data\n",
      "  config    Inspect or reset the settings file (show, reset, path)\n",
      "  help      Print this message\n" ]

/-- What the program answers when it is asked for its version. -/
def versionText : String := "swaggen 0.3.0\n"

/-- The outcome of a run that carries out no command. -/
def Stop.outcome : Stop → Outcome
  | help => { output := helpText }
  | version => { output := versionText }
  | .usage error => { exitCode := 2, errors := "error: " ++ error.message ++ "\n" }

/-- The outcome of a command: what it says, or its failure after a label. -/
def outcomeOf (label : String) : Except String String → Outcome
  | .ok output => { output }
  | .error message => { exitCode := 1, errors := label ++ message ++ "\n" }

variable {m : Type → Type} [Monad m] [FileAccess m]

/-- Shows, resets or locates the stored settings. -/
def runSettings (environment : Environment m) : SettingsCommand → ExceptT String m String
  | .print => do
    let store ← openStore environment none
    pure ("# " ++ store.path ++ "\n" ++ store.settings.showText)
  | .reset => do
    let store ← openStore environment none
    ExceptT.adapt StoreError.message (store.update fun _ => {}).save
    pure "✅ Settings restored to defaults\n"
  | .path =>
    match environment.home? with
    | some home => pure (SettingsStore.defaultPath home ++ "\n")
    | none => throw StoreError.noHome.message

/-- Carries out a command. -/
def Request.run (environment : Environment m) : Request → m Outcome
  | generate arguments => return outcomeOf "error: " (← (arguments.run environment).run)
  | mock arguments => return outcomeOf "error: " (← (arguments.run environment).run)
  | settings command => return outcomeOf "" (← (runSettings environment command).run)

/-- Runs the program on its arguments. -/
def run (environment : Environment m) (arguments : List String) : m Outcome :=
  match Request.read arguments with
  | .ok request => request.run environment
  | .error stop => pure stop.outcome

end TypedClient.Command
