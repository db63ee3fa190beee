/-
# Resetting the settings

A reset loads the settings file before it saves the defaults into it. So it needs a file that is
missing or that holds settings, although saving asks for neither: a file that is no document is
written anew. A file that cannot be loaded ends the reset with an error and stays as it is.
-/

import TypedClient.Proofs.Command.Keeping
import TypedClient.Proofs.Settings.Flat

namespace TypedClient

namespace Command

variable {environment : Environment (StateM FileTree)} {tree after : FileTree}
  {path home : String} {file? : Option String}

/-! ## What is in the settings file -/

/-- The settings file is missing, also once its directories are made, or it is a text. -/
inductive HasSettingsFile (tree : FileTree) (path : String) : Option String → Prop
  | missing (absent : tree.holds path = false) (stays : settingsText? path tree = none) :
    HasSettingsFile tree path none
  | present {content : String} (found : tree.find? path = some (.text content)) :
    HasSettingsFile tree path (some content)

theorem HasSettingsFile.settingsText?_eq (hasFile : HasSettingsFile tree path file?) :
    settingsText? path tree = file? := by
  cases hasFile with
  | missing _ stays => exact stays
  | present found => exact settingsText?_of_find? found

/-- Loading refuses exactly the texts that are no settings. -/
theorem HasSettingsFile.yields_load (hasFile : HasSettingsFile tree path file?) :
    Yields tree (SettingsStore.load path)
      (match file? with
      | none => .ok ⟨path, {}⟩
      | some text =>
        match Settings.parse? text with
        | some settings => .ok ⟨path, settings⟩
        | none => .error (.parse path)) := by
  have loads := Command.yields_load tree path
  cases hasFile with
  | missing absent =>
      rw [absent] at loads
      exact loads
  | present found =>
      have held : tree.holds path = true := by rw [FileTree.holds, found]; rfl
      rw [held, if_pos rfl, FileTree.read_eq_ok_iff.mpr found] at loads
      exact loads

/-! ## Resetting -/

theorem yields_openStore (isHome : environment.home? = some home)
    {result : Except StoreError SettingsStore}
    (loads : Yields tree (SettingsStore.load (SettingsStore.defaultPath home)) result) :
    Yields tree (openStore environment none) (result.mapError StoreError.message) := by
  have located : settingsPath? environment none = some (SettingsStore.defaultPath home) := by
    rw [settingsPath?, isHome]
    rfl
  rw [openStore_of_located located]
  exact loads.adapt StoreError.message

theorem read_reset : Request.read ["config", "reset"] = .ok (.settings .reset) := by decide

theorem run_reset_of_error (isHome : environment.home? = some home) {error : StoreError}
    (loads : Yields tree (SettingsStore.load (SettingsStore.defaultPath home)) (.error error)) :
    (run environment ["config", "reset"]).run tree =
      ({ exitCode := 1, errors := error.message ++ "\n" }, tree) := by
  have opens := yields_openStore isHome loads
  have fails : (runSettings environment .reset).run.run tree = (.error error.message, tree) :=
    run_bind_of_error opens
  rw [run_settings_eq read_reset, fails, outcomeOf, String.empty_append]

theorem run_reset_of_ok (isHome : environment.home? = some home) {settings : Settings}
    (loads : Yields tree (SettingsStore.load (SettingsStore.defaultPath home))
      (.ok ⟨SettingsStore.defaultPath home, settings⟩))
    (saves : (saving ⟨SettingsStore.defaultPath home, {}⟩).run.run tree = (.ok (), after)) :
    (run environment ["config", "reset"]).run tree =
      ({ output := "✅ Settings restored to defaults\n" }, after) := by
  have opens := yields_openStore isHome loads
  have adapted := run_adapt_save ⟨SettingsStore.defaultPath home, {}⟩ tree
  rw [saves] at adapted
  have done : (runSettings environment .reset).run.run tree =
      (.ok "✅ Settings restored to defaults\n", after) :=
    (opens.run_bind).trans (run_bind_of_ok adapted)
  rw [run_settings_eq read_reset, done, outcomeOf]

/-- A reset works exactly if the settings file is missing or holds settings. Then it leaves the
defaults in the file, and in a file that is no settings it leaves what is there. What it saves could
do for every file: the document that it edits has the defaults as settings, and they are loaded if
the document is flat with them in it, or if its text is read back in some other way. -/
theorem run_reset (isHome : environment.home? = some home)
    (hasFile : HasSettingsFile tree (SettingsStore.defaultPath home) file?)
    (saves : (saving ⟨SettingsStore.defaultPath home, {}⟩).run.run tree = (.ok (), after)) :
    ((∃ text, file? = some text ∧ Settings.parse? text = none) →
      (run environment ["config", "reset"]).run tree =
        ({ exitCode := 1
           errors := (StoreError.parse (SettingsStore.defaultPath home)).message ++ "\n" }, tree)) ∧
    ((∀ text, file? = some text → Settings.parse? text ≠ none) →
      (run environment ["config", "reset"]).run tree =
        ({ output := "✅ Settings restored to defaults\n" }, after)) ∧
    after.find? (SettingsStore.defaultPath home) =
      some (.text (({} : Settings).save file?)) ∧
    Settings.read? (({} : Settings).write (Settings.editedFile file?)) = some {} ∧
    ((({} : Settings).write (Settings.editedFile file?)).IsFlat ∨
        Settings.IsReadBack (({} : Settings).write (Settings.editedFile file?)) →
      Yields after (SettingsStore.load (SettingsStore.defaultPath home))
        (.ok ⟨SettingsStore.defaultPath home, {}⟩)) := by
  have loads := hasFile.yields_load
  have held : after.find? (SettingsStore.defaultPath home) =
      some (.text (({} : Settings).save file?)) := by
    obtain ⟨saved, ⟨isSaved, found⟩ | ⟨⟨error, failed⟩, -⟩⟩ :=
      save_cases ⟨SettingsStore.defaultPath home, {}⟩ tree
    · cases saves.symm.trans isSaved
      rw [found, hasFile.settingsText?_eq]
    · cases saves.symm.trans failed
  refine ⟨?_, ?_, held, Settings.read?_write _ _, ?_⟩
  · rintro ⟨text, rfl, refused⟩
    simp only [refused] at loads
    exact run_reset_of_error isHome loads
  · intro accepted
    cases file? with
    | none => exact run_reset_of_ok isHome loads saves
    | some text =>
        obtain ⟨settings, parsed⟩ := Option.ne_none_iff_exists'.mp (accepted text rfl)
        simp only [parsed] at loads
        exact run_reset_of_ok isHome loads saves
  · intro known
    have parsed : Settings.parse? (({} : Settings).save file?) = some {} := by
      refine Settings.parse?_save_of_isReadBack (known.elim (fun flat => ?_) id)
      exact Settings.isReadBack_of_isFlat rfl flat
    have reloads := (HasSettingsFile.present held).yields_load
    simpa only [parsed] using reloads

/-! ## Files with a fault -/

/-- Surroundings with a home directory. -/
def homeEnvironment : Environment (StateM FileTree) :=
  { bareEnvironment with home? := some "/" }

/-- A home directory with a settings file. -/
def homeTree (text : String) : FileTree :=
  { entries := [([".swaggen"], .directory), ([".swaggen", "config.toml"], .text text)] }

theorem find?_homeTree (text : String) :
    (homeTree text).find? (SettingsStore.defaultPath "/") = some (.text text) := rfl

theorem saves_homeTree (text : String) : ∃ after,
    (saving ⟨SettingsStore.defaultPath "/", {}⟩).run.run (homeTree text) = (.ok (), after) :=
  ⟨_, rfl⟩

theorem home?_homeEnvironment : homeEnvironment.home? = some "/" := rfl

/-- A settings file with a choice, a rule and comments of its user. -/
def userText : String :=
  "# mine\n[core]\nlang = \"js\" # for now\n\n[[api.substitutions]]\nfrom = \"a\"\nto = \"b\"\n"

theorem run_reset_home :
    (∃ after,
      (run homeEnvironment ["config", "reset"]).run (homeTree userText) =
        ({ output := "✅ Settings restored to defaults\n" }, after) ∧
      Yields after (SettingsStore.load (SettingsStore.defaultPath "/"))
        (.ok ⟨SettingsStore.defaultPath "/", {}⟩)) ∧
    (run homeEnvironment ["config", "reset"]).run (homeTree "no settings") =
      ({ exitCode := 1
         errors := "Failed to parse /.swaggen/config.toml: not a settings file\n" },
        homeTree "no settings") := by
  constructor
  · obtain ⟨after, saves⟩ := saves_homeTree userText
    have isRead : Settings.parse? userText ≠ none := by decide +kernel
    have flat : (({} : Settings).write (Settings.editedFile (some userText))).IsFlat := by
      decide +kernel
    obtain ⟨-, works, -, -, loads⟩ :=
      run_reset home?_homeEnvironment (.present (find?_homeTree userText)) saves
    exact ⟨after, works fun text isText => Option.some.inj isText ▸ isRead, loads (.inl flat)⟩
  · obtain ⟨after, saves⟩ := saves_homeTree "no settings"
    have refused : Settings.parse? "no settings" = none := by decide +kernel
    exact (run_reset home?_homeEnvironment (.present (find?_homeTree "no settings")) saves).1
      ⟨_, rfl, refused⟩

/-- A file that can be read and written, but has a setting of the wrong type, is not reset. -/
theorem run_reset_refuses_maybe :
    let text := "[core]\ntype_only = \"maybe\"\n"
    (homeTree text).read (SettingsStore.defaultPath "/") = .ok text ∧
    (∃ after,
      (saving ⟨SettingsStore.defaultPath "/", {}⟩).run.run (homeTree text) = (.ok (), after)) ∧
    (run homeEnvironment ["config", "reset"]).run (homeTree text) =
      ({ exitCode := 1
         errors := "Failed to parse /.swaggen/config.toml: not a settings file\n" },
        homeTree text) := by
  intro text
  have refused : Settings.parse? text = none := by decide +kernel
  have loads := (HasSettingsFile.present (find?_homeTree text)).yields_load
  simp only [refused] at loads
  exact ⟨rfl, saves_homeTree text, run_reset_of_error home?_homeEnvironment loads⟩

end Command

end TypedClient
