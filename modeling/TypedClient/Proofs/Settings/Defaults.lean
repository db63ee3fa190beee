/-
# Flags become defaults

The flags of a run are kept as stored settings. They are kept under names that are read back, so
the next run makes the same choices without them, save for mock data, which is asked for each time.
-/

import TypedClient.Command.Generate

namespace TypedClient

/-! ## Names are read back -/

theorem Language.parse_extension (language : Language) :
    Language.parse language.extension = .ok language := by
  cases language <;> rfl

theorem NamingPolicy.parse_name (policy : NamingPolicy) :
    NamingPolicy.parse policy.name = .ok policy := by
  cases policy <;> rfl

/-- Reads the stored name of a formatter. -/
def FormatterChoice.parse (name : String) : Except String FormatterChoice :=
  match FormatterChoice.ofName? name with
  | some choice => .ok choice
  | none => .error s!"Invalid formatter '{name}' in rc file: invalid variant: {name}"

theorem FormatterChoice.parse_name (choice : FormatterChoice) :
    FormatterChoice.parse choice.name = .ok choice := by
  cases choice <;> rfl

namespace Settings

/-! ## Choices -/

section

variable {α : Type} {parse : String → Except String α} {name : α → String}

/-- What a run chooses: the flag before the stored name. -/
def choose (parse : String → Except String α) (flag : Option α) (stored : String) :
    Except String α :=
  match flag with
  | some choice => .ok choice
  | none => parse stored

/-- A flag that is kept by its name is chosen when it is not given again. -/
theorem choose_none_kept (readsBack : ∀ choice, parse (name choice) = .ok choice)
    (flag : Option α) (stored : String) :
    choose parse none ((flag.map name).getD stored) = choose parse flag stored := by
  cases flag with
  | none => rfl
  | some choice => exact readsBack choice

/-- It is also chosen when it is given again. -/
theorem choose_kept (flag : Option α) (stored : String) :
    choose parse flag ((flag.map name).getD stored) = choose parse flag stored := by
  cases flag <;> rfl

end

variable (settings : Settings) (overrides : Overrides)

/-- The settings of a compilation whose language and naming policy are chosen. -/
def configFor (language : Language) (naming : NamingPolicy) : CompileConfig :=
  { language, naming
    template :=
      { strategy := overrides.template.getD settings.core.template
        header? := settings.api.headerFor? language.extension
        substitutions := settings.api.substitutions }
    typeOnly := overrides.typeOnly || settings.core.typeOnly
    mock := overrides.mock
    interfaceImportPath :=
      overrides.interfaceImportPath.getD settings.api.interfaceImportPath
    tags := overrides.tags.getD settings.api.tags }

theorem compileConfig_eq :
    settings.compileConfig overrides =
      (choose Language.parse overrides.language settings.core.language).bind fun language =>
        (choose NamingPolicy.parse overrides.naming settings.core.naming).map
          (settings.configFor overrides language) := by
  unfold compileConfig choose
  cases overrides.language <;> cases overrides.naming <;> rfl

theorem formatterChoice_eq (flag : Option FormatterChoice) :
    settings.formatterChoice flag = choose FormatterChoice.parse flag settings.api.formatter := by
  unfold formatterChoice choose
  cases flag <;> rfl

end Settings

/-! ## What a run keeps -/

namespace Command.GenerateArguments

open Settings

variable (arguments : GenerateArguments) (overrides : Overrides) (settings : Settings)

/-- A value that is kept is the default that it goes before. -/
theorem getD_getD {α : Type} (flag : Option α) (stored : α) :
    flag.getD (flag.getD stored) = flag.getD stored := by
  cases flag <;> rfl

/-- A switch that is on is kept; one that is off leaves the default. -/
theorem getD_switch (switch stored : Bool) :
    (if switch then some true else none).getD stored = (switch || stored) := by
  cases switch <;> rfl

/-- Flags come to the same after they are kept. -/
theorem configFor_updated :
    (arguments.updated overrides settings).configFor overrides = settings.configFor overrides := by
  funext language naming
  simp only [configFor, updated, mergeCore, mergeApi, Overrides.coreUpdate, Overrides.apiUpdate,
    ApiSettings.headerFor?, Option.none_or, Option.getD_none, getD_getD, getD_switch,
    Bool.or_self_left]

/-- Without flags the defaults are those that were kept, and no mock data is produced. -/
theorem configFor_updated_default (language : Language) (naming : NamingPolicy) :
    (arguments.updated overrides settings).configFor {} language naming =
      { settings.configFor overrides language naming with mock := false } := by
  simp only [configFor, updated, mergeCore, mergeApi, Overrides.coreUpdate, Overrides.apiUpdate,
    ApiSettings.headerFor?, Option.none_or, Option.getD_none, getD_switch, Bool.false_or]

/-- Keeping flags twice keeps them once. -/
theorem updated_updated :
    arguments.updated overrides (arguments.updated overrides settings) =
      arguments.updated overrides settings := by
  simp only [updated, mergeCore, mergeApi, Overrides.coreUpdate, Overrides.apiUpdate,
    Option.none_or, Option.getD_none, getD_getD]

/-- The flags of a run are the defaults of the next: with the settings that a run keeps, the same
flags come to the same configuration, and no flags come to it too, but for mock data. The formatter
is the one that was chosen. Keeping the flags again changes nothing. -/
theorem updated_defaults :
    (arguments.updated overrides settings).compileConfig overrides =
        settings.compileConfig overrides ∧
      (arguments.updated overrides settings).compileConfig {} =
        (settings.compileConfig overrides).map ({ · with mock := false }) ∧
      (arguments.updated overrides settings).formatterChoice none =
        settings.formatterChoice arguments.formatter ∧
      arguments.updated overrides (arguments.updated overrides settings) =
        arguments.updated overrides settings := by
  have language : (arguments.updated overrides settings).core.language =
      (overrides.language.map Language.extension).getD settings.core.language := rfl
  have naming : (arguments.updated overrides settings).core.naming =
      (overrides.naming.map NamingPolicy.name).getD settings.core.naming := rfl
  have formatter : (arguments.updated overrides settings).api.formatter =
      (arguments.formatter.map FormatterChoice.name).getD settings.api.formatter := rfl
  refine ⟨?_, ?_, ?_, updated_updated arguments overrides settings⟩
  · simp only [compileConfig_eq, language, naming, choose_kept, configFor_updated]
  · have noLanguage : ({} : Overrides).language = none := rfl
    have noNaming : ({} : Overrides).naming = none := rfl
    rw [compileConfig_eq, compileConfig_eq, noLanguage, noNaming, language, naming,
      choose_none_kept Language.parse_extension, choose_none_kept NamingPolicy.parse_name]
    cases choose Language.parse overrides.language settings.core.language with
    | error message => rfl
    | ok language =>
        cases choose NamingPolicy.parse overrides.naming settings.core.naming with
        | error message => rfl
        | ok naming =>
            exact congrArg Except.ok (configFor_updated_default arguments overrides settings ..)
  · rw [formatterChoice_eq, formatterChoice_eq, formatter,
      choose_none_kept FormatterChoice.parse_name]

end Command.GenerateArguments

end TypedClient
