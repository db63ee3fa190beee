/-
# Settings for one run

The flags of a run go before stored settings, and the settings of a compilation are made of both.
The flags that were given become stored settings in turn, save those that are for one run only.
-/

import TypedClient.Settings.Basic

namespace TypedClient

/-- Which formatter the generated modules are laid out by. -/
inductive FormatterChoice where
  | builtin
  | prettier
  deriving DecidableEq, Repr

namespace FormatterChoice

/-- The name of a formatter in settings and flags. -/
def name : FormatterChoice → String
  | builtin => "builtin"
  | prettier => "prettier"

/-- Every formatter. -/
def all : List FormatterChoice := [builtin, prettier]

/-- Reads the name of a formatter without regard to ASCII case. -/
def ofName? (text : String) : Option FormatterChoice :=
  all.find? (·.name == Text.asciiLowercase text)

end FormatterChoice

/-- The flags of a run that go before stored settings. -/
structure Overrides where
  language : Option Language := none
  naming : Option NamingPolicy := none
  template : Option String := none
  interfaceImportPath : Option String := none
  tags : Option (List String) := none
  typeOnly : Bool := false
  mock : Bool := false
  deriving DecidableEq, Repr

namespace Overrides

/-- The change to the core settings that makes flags the new defaults. A switch that is off changes
nothing. -/
def coreUpdate (overrides : Overrides) : CoreUpdate :=
  { language := overrides.language.map Language.extension
    template := overrides.template
    naming := overrides.naming.map NamingPolicy.name
    typeOnly := if overrides.typeOnly then some true else none }

/-- The change to the settings of the request module that makes flags the new defaults. -/
def apiUpdate (overrides : Overrides) (formatter : Option FormatterChoice)
    (root : Option String) : ApiUpdate :=
  { root
    interfaceImportPath := overrides.interfaceImportPath
    formatter := formatter.map FormatterChoice.name
    tags := overrides.tags }

end Overrides

namespace Settings

/-- The settings of a compilation: flags before stored settings. -/
def compileConfig (settings : Settings) (overrides : Overrides) : Except String CompileConfig := do
  let language ← match overrides.language with
    | some language => .ok language
    | none => Language.parse settings.core.language
  let naming ← match overrides.naming with
    | some naming => .ok naming
    | none => NamingPolicy.parse settings.core.naming
  .ok
    { language, naming
      template :=
        { strategy := overrides.template.getD settings.core.template
          header? := settings.api.headerFor? language.extension
          substitutions := settings.api.substitutions }
      typeOnly := overrides.typeOnly || settings.core.typeOnly
      mock := overrides.mock
      interfaceImportPath :=
        overrides.interfaceImportPath.getD settings.api.interfaceImportPath
      tags := overrides.tags.getD settings.api.tags }

/-- The formatter of a run: the flag before the stored setting. -/
def formatterChoice (settings : Settings) (flag : Option FormatterChoice) :
    Except String FormatterChoice :=
  match flag with
  | some choice => .ok choice
  | none =>
    let name := settings.api.formatter
    match FormatterChoice.ofName? name with
    | some choice => .ok choice
    | none => .error s!"Invalid formatter '{name}' in rc file: invalid variant: {name}"

end Settings

end TypedClient
