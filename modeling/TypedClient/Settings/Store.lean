/-
# The store of settings

Settings together with the file that they are kept in. Settings that were never saved are the
defaults; a file that is no settings file is refused when loading and replaced when saving.
-/

import TypedClient.Files.Access
import TypedClient.Settings.File

namespace TypedClient

/-- Why settings cannot be loaded or saved. -/
inductive StoreError where
  | noHome
  | read (path : String) (cause : FileError)
  | write (path : String) (cause : FileError)
  | parse (path : String)
  deriving DecidableEq, Repr

/-- The words for a failure. -/
def StoreError.message : StoreError → String
  | noHome => "Failed to determine home directory"
  | read path cause => s!"Failed to read {path}: {cause.message}"
  | write path cause => s!"Failed to write {path}: {cause.message}"
  | parse path => s!"Failed to parse {path}: not a settings file"

/-- Settings and the path of their file. -/
structure SettingsStore where
  path : String
  settings : Settings
  deriving DecidableEq, Repr

namespace SettingsStore

/-- The path of the settings file in a home directory. -/
def defaultPath (home : String) : String :=
  Path.join (Path.join home ".swaggen") "config.toml"

section

variable {m : Type → Type} [Monad m] [FileAccess m]

/-- Loads the settings file at a path. -/
def load (path : String) : ExceptT StoreError m SettingsStore := do
  if ← FileAccess.holds (m := m) path then
    match ← FileAccess.read (m := m) path with
    | .ok text =>
      match Settings.parse? text with
      | some settings => pure ⟨path, settings⟩
      | none => throw (.parse path)
    | .error cause => throw (.read path cause)
  else pure ⟨path, {}⟩

/-- Saves the settings into their file, which keeps whatever else it has. -/
def save (store : SettingsStore) : ExceptT StoreError m Unit := do
  if let some directory := Path.parent? store.path then
    if let .error cause ← FileAccess.makeDirectories (m := m) directory then
      throw (.write directory cause)
  let file := match ← FileAccess.read (m := m) store.path with
    | .ok text => some text
    | .error _ => none
  if let .error cause ← FileAccess.write (m := m) store.path (store.settings.save file) then
    throw (.write store.path cause)

end

/-- The store with its settings changed. -/
def update (change : Settings → Settings) (store : SettingsStore) : SettingsStore :=
  { store with settings := change store.settings }

end SettingsStore

end TypedClient
