/-
# Plans of runs

A run first finds out what it would write, and then either shows or writes it. Settings are kept
before any file is written.
-/

import TypedClient.Command.Arguments
import TypedClient.Command.Source
import TypedClient.Document.Text
import TypedClient.Files.Output
import TypedClient.Layout.Format
import TypedClient.Settings.Store

namespace TypedClient.Command

/-- What a run is about to write. -/
structure RunPlan where
  store : SettingsStore
  changes : List FileChange
  /-- What the run has done once it is through. -/
  headline : String

/-- The message of an error, with the text that could not be formatted. -/
def describe (error : CompileError) : String :=
  match error.emitted? with
  | some emitted => error.message ++ "\n\nEmitted code:\n" ++ emitted
  | none => error.message

/-- The layout that a run writes modules in. -/
def formatterFor {m : Type → Type} (environment : Environment m) (choice : FormatterChoice) :
    Except String Formatter :=
  match choice with
  | .builtin => .ok Formatter.layout
  | .prettier =>
    match Prettier.detect? environment.isInstalled with
    | some prettier => .ok (prettier.formatter environment.runProgram)
    | none => .error "prettier was not found on PATH (install it or use --formatter builtin)"

/-- Compiles a document with the settings of a run. -/
def compile {m : Type → Type} (environment : Environment m) (document : Document)
    (settings : Settings) (overrides : Overrides) (formatter : Option FormatterChoice) :
    Except String CompileOutput := do
  let config ← settings.compileConfig overrides
  let layout ← formatterFor environment (← settings.formatterChoice formatter)
  (document.compile config layout .builtin).mapError describe

variable {m : Type → Type} [Monad m] [FileAccess m]

/-- Loads the settings from a file, or else from the one in the home directory. -/
def openStore (environment : Environment m) (path : Option String) :
    ExceptT String m SettingsStore :=
  ExceptT.adapt StoreError.message do
    match path, environment.home? with
    | some path, _ => SettingsStore.load path
    | none, some home => SettingsStore.load (SettingsStore.defaultPath home)
    | none, none => throw .noHome

/-- The source of a run: the one given, else the stored one. -/
def chooseSource (arguments : SharedArguments) (settings : Settings) : ExceptT String m String := do
  let source := arguments.source.getD settings.core.source
  checkSource source
  pure source

/-- Reads the document of a run. -/
def readDocument (environment : Environment m) (source : String) (settings : Settings) :
    ExceptT String m Document := do
  let text ← loadSource environment source settings.api.cookie
  MonadExcept.ofExcept ((Document.parse text).mapError describe)

namespace RunPlan

/-- What a plan would do, in words. -/
def preview (plan : RunPlan) : String :=
  FileChange.preview plan.changes ++ "Dry run: nothing written.\n"

/-- Keeps the settings and writes the files. -/
def carryOut (plan : RunPlan) : ExceptT String m WriteSummary := do
  ExceptT.adapt StoreError.message plan.store.save
  FileChange.applyAll plan.changes {}

/-- What a finished run says. -/
def report (plan : RunPlan) (elapsed : String) (summary : WriteSummary) : String :=
  s!"✅ {plan.headline} in {elapsed} ({summary.created} created, {summary.updated} updated, " ++
    s!"{summary.unchanged} unchanged)\n"

/-- Shows or carries out a plan, and gives what there is to say. -/
def finish (environment : Environment m) (dryRun : Bool) (plan : RunPlan) :
    ExceptT String m String := do
  if dryRun then pure plan.preview
  else
    let summary ← plan.carryOut
    pure (plan.report (← environment.elapsed) summary)

end RunPlan

end TypedClient.Command
