/-
# Runs one after another

Runs of the program that use one settings file, each at its own time and among its own files.
What is stored there after any number of runs, failed and dry ones included, has a history.
Stored tags were given to a run on the source that is stored with them, and no run since has
saved another source.
-/

import TypedClient.Proofs.Command.Keeping
import TypedClient.Proofs.Settings.Plain

namespace TypedClient

/-! ## Settings of a run -/

namespace Settings

theorem source_recordSource (source : String) (settings : Settings) :
    (settings.recordSource source).core.source = source := by
  unfold recordSource
  dsimp only
  split <;> rfl

theorem tags_recordSource (source : String) (settings : Settings) :
    (settings.recordSource source).api.tags =
      if source = settings.core.source then settings.api.tags else [] := by
  unfold recordSource sourceChanged
  dsimp only
  split
  · rename_i changed
    exact (if_neg fun same => of_decide_eq_true changed same.symm).symm
  · rename_i unchanged
    have same : settings.core.source = source :=
      Decidable.not_not.mp (of_decide_eq_false (Bool.eq_false_iff.mpr unchanged))
    exact (if_pos same.symm).symm

theorem IsPlain.recordSource {settings : Settings} (isPlain : settings.IsPlain) (source : String) :
    (settings.recordSource source).IsPlain := by
  unfold Settings.recordSource
  dsimp only
  split
  all_goals exact ⟨isPlain.noHeaderTs, isPlain.noHeaderJs, isPlain.noRules⟩

end Settings

namespace Command

variable {environment : Environment (StateM FileTree)} {preparation : Preparation}
  {request : Request} {settings : Settings} {overrides : Overrides}

/-- A run keeps its source, and its tags or else those of the source if it is the same. -/
structure Preparation.KeepsChoices (preparation : Preparation) (settings settled : Settings) :
    Prop where
  source : settled.core.source = preparation.source settings
  tags : settled.api.tags = preparation.shared.tags.getD
    (if preparation.source settings = settings.core.source then settings.api.tags else [])
  isPlain : settings.IsPlain → settled.IsPlain

theorem keepsChoices_settle (isRequest : request.preparation? = some preparation)
    (overridden : preparation.overrides settings = .ok overrides) :
    preparation.KeepsChoices settings
      (preparation.settle (preparation.source settings) overrides settings) := by
  cases request with
  | settings command => cases isRequest
  | generate arguments =>
      cases isRequest
      have isTags : overrides.tags = arguments.tags := by
        cases chosen : arguments.chooseLanguage settings with
        | error message =>
            simp only [GenerateArguments.preparation, chosen] at overridden
            cases overridden
        | ok language =>
            simp only [GenerateArguments.preparation, chosen] at overridden
            cases overridden
            rfl
      refine ⟨Settings.source_recordSource _ settings, ?_, fun isPlain => ?_⟩
      · rw [← Settings.tags_recordSource]
        exact congrArg (fun tags : Option (List String) =>
          tags.getD (settings.recordSource (arguments.preparation.source settings)).api.tags) isTags
      · have recorded := isPlain.recordSource (arguments.preparation.source settings)
        exact ⟨recorded.noHeaderTs, recorded.noHeaderJs, recorded.noRules⟩
  | mock arguments =>
      cases isRequest
      refine ⟨Settings.source_recordSource _ settings, ?_, fun isPlain => ?_⟩
      · rw [← Settings.tags_recordSource]
        rfl
      · have recorded := isPlain.recordSource (arguments.preparation.source settings)
        exact ⟨recorded.noHeaderTs, recorded.noHeaderJs, recorded.noRules⟩

/-! ## Visits to a settings file -/

/-- The settings file that a request names, if it names one. -/
def Request.config? : Request → Option String
  | .generate arguments => arguments.config
  | .mock arguments => arguments.config
  | .settings _ => none

/-- A run of the program on a settings file, with its surroundings and the files it finds. -/
structure Visit where
  environment : Environment (StateM FileTree)
  arguments : List String
  request : Request
  isRead : Request.read arguments = .ok request
  path : String
  located : settingsPath? environment request.config? = some path
  before : FileTree

namespace Visit

/-- The files that a run leaves. -/
def after (visit : Visit) : FileTree :=
  ((run visit.environment visit.arguments).run visit.before).2

/-- The tags that a run is given. -/
def tags? (visit : Visit) : Option (List String) :=
  visit.request.preparation?.bind (·.shared.tags)

/-- A run saves its settings, with a source. -/
def SavesSource (visit : Visit) (source : String) : Prop :=
  ∃ preparation loaded,
    Saves visit.environment visit.before visit.request preparation loaded ∧
      preparation.source loaded.settings = source

end Visit

/-- Runs one after another on one settings file, which is not there at first. What one run leaves in
it, at last `text?`, the next one finds; all other files may be changed in between. -/
inductive History : List Visit → (text? : Option String) → Prop
  | nil : History [] none
  | snoc {visits : List Visit} {visit : Visit} {text? : Option String}
    (earlier : History visits text?) (finds : settingsText? visit.path visit.before = text?) :
    History (visits ++ [visit]) (settingsText? visit.path visit.after)

/-- Tags were given to a run that saved them with a source, and no run since has saved another. -/
def GivenFor (visits : List Visit) (tags : List String) (source : String) : Prop :=
  ∃ before visit after, visits = before ++ visit :: after ∧ visit.tags? = some tags ∧
    visit.SavesSource source ∧
    ∀ later ∈ after, ∀ other, later.SavesSource other → other = source

theorem GivenFor.snoc {visits : List Visit} {tags : List String} {source : String}
    (given : GivenFor visits tags source) {visit : Visit}
    (agrees : ∀ other, visit.SavesSource other → other = source) :
    GivenFor (visits ++ [visit]) tags source := by
  obtain ⟨before, giver, after, rfl, isGiven, saves, later⟩ := given
  refine ⟨before, giver, after ++ [visit], by simp, isGiven, saves, ?_⟩
  exact List.forall_mem_append.mpr ⟨later, List.forall_mem_singleton.mpr agrees⟩

/-- Settings that runs have stored: no user has edited them, and their tags have been given. -/
structure IsStored (visits : List Visit) (settings : Settings) : Prop where
  isPlain : settings.IsPlain
  given : settings.api.tags ≠ [] → GivenFor visits settings.api.tags settings.core.source

/-- A settings file holds stored settings, or what is no document. -/
def Coherent (visits : List Visit) (text? : Option String) : Prop :=
  ∀ text, text? = some text →
    Toml.Document.parse? text = none ∨ ∃ settings, IsStored visits settings ∧
      text = settings.plainText

/-- Settings are stored over whatever a coherent file holds. -/
theorem Coherent.save {visits : List Visit} {text? : Option String}
    (coherent : Coherent visits text?) (isPlain : settings.IsPlain) :
    settings.save text? = settings.plainText := by
  cases text? with
  | none => exact Settings.save_anew isPlain nofun
  | some text =>
      rcases coherent text rfl with unread | ⟨earlier, -, rfl⟩
      · exact Settings.save_anew isPlain fun _ same => Option.some.inj same ▸ unread
      · exact Settings.save_plainText isPlain earlier

theorem isStored_default (visits : List Visit) : IsStored visits {} :=
  ⟨⟨rfl, rfl, rfl⟩, fun chosen => absurd rfl chosen⟩

/-- What a run loads from a coherent file has been stored. -/
theorem Coherent.isStored {visits : List Visit} {tree : FileTree} {config : Option String}
    {store : SettingsStore} (coherent : Coherent visits (settingsText? store.path tree))
    (opened : Opens environment tree config store) : IsStored visits store.settings := by
  rcases opened.loaded with ⟨-, isDefault⟩ | ⟨-, text, read, parsed⟩
  · rw [isDefault]
    exact isStored_default visits
  · have isText := settingsText?_of_find? (FileTree.read_eq_ok_iff.mp read)
    rcases coherent text isText with unread | ⟨stored, isStored, rfl⟩
    · rw [Settings.parse?, unread] at parsed
      cases parsed
    · rw [Settings.parse?_plainText isStored.isPlain] at parsed
      exact Option.some.inj parsed ▸ isStored

theorem config?_of_preparation? (isRequest : request.preparation? = some preparation) :
    request.config? = preparation.shared.config := by
  cases request with
  | settings command => cases isRequest
  | generate arguments =>
      cases isRequest
      rfl
  | mock arguments =>
      cases isRequest
      rfl

/-- A run saves one source only. -/
theorem Visit.SavesSource.unique {visit : Visit} {source : String} {loaded : SettingsStore}
    (saves : visit.SavesSource source) (isRequest : visit.request.preparation? = some preparation)
    (opened : Opens visit.environment visit.before preparation.shared.config loaded) :
    source = preparation.source loaded.settings := by
  obtain ⟨preparation, other, saves, rfl⟩ := saves
  cases isRequest.symm.trans saves.isRequest
  rw [saves.opened.unique opened]

variable {visits : List Visit} {visit : Visit}

/-- A run that saves no source and leaves the text of the settings file changes nothing. -/
theorem Coherent.unchanged {text? : Option String} (coherent : Coherent visits text?)
    (noSource : ∀ source, ¬ visit.SavesSource source) : Coherent (visits ++ [visit]) text? := by
  intro text isText
  refine (coherent text isText).imp_right ?_
  rintro ⟨settings, isStored, rfl⟩
  exact ⟨settings, ⟨isStored.isPlain, fun chosen => (isStored.given chosen).snoc
    fun other saves => absurd saves (noSource other)⟩, rfl⟩

/-- What a run saves has been given to it, or else to an earlier run on the same source. -/
theorem IsStored.settle {loaded : SettingsStore} {overrides : Overrides}
    (isRequest : visit.request.preparation? = some preparation)
    (saves : Saves visit.environment visit.before visit.request preparation loaded)
    (overridden : preparation.overrides loaded.settings = .ok overrides)
    (isStored : IsStored visits loaded.settings) :
    IsStored (visits ++ [visit]) (preparation.kept overrides loaded).settings := by
  have keeps : preparation.KeepsChoices loaded.settings (preparation.kept overrides loaded).settings :=
    keepsChoices_settle isRequest overridden
  have savesSource : visit.SavesSource (preparation.source loaded.settings) :=
    ⟨preparation, loaded, saves, rfl⟩
  refine ⟨keeps.isPlain isStored.isPlain, fun chosen => ?_⟩
  rw [keeps.source]
  cases given : preparation.shared.tags with
  | some tags =>
      have isTags : (preparation.kept overrides loaded).settings.api.tags = tags := by
        rw [keeps.tags, given, Option.getD_some]
      rw [isTags]
      refine ⟨visits, visit, [], rfl, ?_, savesSource, List.forall_mem_nil _⟩
      rw [Visit.tags?, isRequest]
      exact given
  | none =>
      have isTags := keeps.tags
      rw [given, Option.getD_none] at isTags
      by_cases same : preparation.source loaded.settings = loaded.settings.core.source
      · rw [if_pos same] at isTags
        rw [isTags] at chosen ⊢
        rw [same]
        refine (isStored.given chosen).snoc fun other savesOther => ?_
        exact (savesOther.unique isRequest saves.opened).trans same
      · rw [if_neg same] at isTags
        exact absurd isTags chosen

/-- Every run keeps the settings file coherent. -/
theorem coherent_after (ordinary : IsOrdinary visit.environment)
    (coherent : Coherent visits (settingsText? visit.path visit.before)) :
    Coherent (visits ++ [visit]) (settingsText? visit.path visit.after) := by
  have located := visit.located
  have isRead := visit.isRead
  unfold Visit.after
  cases isRequest : visit.request.preparation? with
  | none =>
      have noSource (source : String) : ¬ visit.SavesSource source := by
        rintro ⟨preparation, loaded, saves, -⟩
        cases isRequest.symm.trans saves.isRequest
      obtain ⟨command, isSettings⟩ : ∃ command, visit.request = .settings command := by
        cases request : visit.request with
        | settings command => exact ⟨command, rfl⟩
        | generate | mock =>
            rw [request] at isRequest
            cases isRequest
      rw [isSettings] at located isRead
      rcases settings_cases isRead located visit.before with same | isDefault
      · rw [same]
        exact coherent.unchanged noSource
      · rw [isDefault, coherent.save (isStored_default visits).isPlain]
        exact fun text isText => .inr ⟨{}, isStored_default _, (Option.some.inj isText).symm⟩
  | some preparation =>
      rw [config?_of_preparation? isRequest] at located
      rcases run_cases ordinary isRead isRequest located visit.before with
        ⟨same, noSaving⟩ | ⟨loaded, overrides, text, saves, overridden, isText, isSaved⟩
      · rw [same]
        refine coherent.unchanged ?_
        rintro source ⟨other, loaded, saves, -⟩
        cases isRequest.symm.trans saves.isRequest
        exact noSaving loaded saves
      · rw [isText]
        rintro _ ⟨⟩
        have isPath := path_of_opens located saves.opened
        rw [← isPath] at coherent isSaved
        have isStored := coherent.isStored saves.opened
        have settled := isStored.settle isRequest saves overridden
        rcases isSaved with rfl | unread
        · exact .inr ⟨_, settled, coherent.save settled.isPlain⟩
        · exact .inl unread

/-- Stored tags belong to the stored source: they were given to a run that saved this source, and
no run has saved another one since. -/
theorem givenFor_of_history {text : String}
    (ordinary : ∀ visit ∈ visits, IsOrdinary visit.environment)
    (history : History visits (some text)) (stored : Settings.parse? text = some settings)
    (chosen : settings.api.tags ≠ []) :
    GivenFor visits settings.api.tags settings.core.source := by
  have coherent : ∀ {visits text?}, History visits text? →
      (∀ visit ∈ visits, IsOrdinary visit.environment) → Coherent visits text? := by
    intro visits text? history ordinary
    induction history with
    | nil => exact nofun
    | snoc earlier finds ih =>
        obtain ⟨ordinaryEarlier, ordinaryLast⟩ := List.forall_mem_append.mp ordinary
        refine coherent_after (ordinaryLast _ List.mem_cons_self) ?_
        rw [finds]
        exact ih ordinaryEarlier
  rcases coherent history ordinary text rfl with unread | ⟨earlier, isStored, rfl⟩
  · rw [Settings.parse?, unread] at stored
    cases stored
  · rw [Settings.parse?_plainText isStored.isPlain] at stored
    cases stored
    exact isStored.given chosen

/-! A run that is given a tag, on a document whose mock data is there already. -/

deriving instance DecidableEq for RunPlan

/-- A document and its mock data. -/
def mockedFiles : FileTree :=
  { entries :=
      [ (["api.json"], .text "\x7b\"swagger\": \"2.0\"\x7d"),
        (["mock"], .directory),
        (["mock", "routes.json"], .text "[]\n") ] }

/-- A run that writes mock data for one tag. -/
def taggedVisit : Visit :=
  { environment := bareEnvironment
    arguments := ["mock", "--source", "/api.json", "--config", "/rc.toml", "--tags", "pet"]
    request := .mock
      { source := some "/api.json", config := some "/rc.toml", tags := some ["pet"] }
    isRead := rfl
    path := "/rc.toml"
    located := rfl
    before := mockedFiles }

/-- The settings that the run stores. -/
def taggedSettings : Settings :=
  { core := { source := "/api.json" }
    api :=
      { previousSource := "https://petstore.swagger.io/v2/swagger.json"
        tags := ["pet"] } }

theorem isOrdinary_bareEnvironment : IsOrdinary bareEnvironment where
  fetches _ _ _ := rfl
  tells _ := rfl
  writesCode _ _ _ _ _ _ done := by cases done

theorem text_taggedVisit :
    settingsText? taggedVisit.path taggedVisit.after = some taggedSettings.plainText := by
  have absent : settingsText? "/rc.toml" mockedFiles = none := by decide +kernel
  have saves : ((saving ⟨"/rc.toml", taggedSettings⟩).run.run mockedFiles).1.isOk = true := by
    decide +kernel
  have plans : Yields mockedFiles (MockArguments.prepare bareEnvironment
      { source := some "/api.json", config := some "/rc.toml", tags := some ["pet"] })
      (.ok ⟨⟨"/rc.toml", taggedSettings⟩, [⟨"mock/routes.json", "[]\n", some "[]\n"⟩],
        "Wrote 0 mock entries to mock"⟩) := by
    change (_ : Except String RunPlan × FileTree) = _
    decide +kernel
  obtain ⟨saved, ⟨isSaved, found⟩ | ⟨⟨error, failed⟩, -⟩⟩ :=
    save_cases ⟨"/rc.toml", taggedSettings⟩ mockedFiles
  · have isAfter : taggedVisit.after = saved :=
      run_of_unchanged isOrdinary_bareEnvironment taggedVisit.isRead rfl rfl rfl plans
        (List.forall_mem_singleton.mpr rfl) isSaved
    have isText : taggedSettings.save none = taggedSettings.plainText :=
      Settings.save_anew ⟨rfl, rfl, rfl⟩ nofun
    rw [absent, isText] at found
    rw [isAfter]
    exact settingsText?_of_find? found
  · rw [show (saving ⟨"/rc.toml", taggedSettings⟩).run.run mockedFiles = (.error error, saved)
      from failed] at saves
    cases saves

theorem givenFor_taggedVisit : GivenFor [taggedVisit] ["pet"] "/api.json" := by
  have history : History [taggedVisit] (some taggedSettings.plainText) := by
    rw [← text_taggedVisit]
    exact History.nil.snoc (by decide +kernel)
  exact givenFor_of_history (List.forall_mem_singleton.mpr isOrdinary_bareEnvironment) history
    (Settings.parse?_plainText ⟨rfl, rfl, rfl⟩) (List.cons_ne_nil _ _)

end Command

end TypedClient
