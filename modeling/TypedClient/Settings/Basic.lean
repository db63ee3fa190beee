/-
# Stored settings

The settings that one run leaves to the next, in three sections, and the changes that a run makes to
them. Tags are chosen from one document, so they do not outlive a change of the source.
-/

import TypedClient.Compile.Config

namespace TypedClient

/-- What is generated, and how. -/
structure CoreSettings where
  /-- The address or file of the document. -/
  source : String := "https://petstore.swagger.io/v2/swagger.json"
  language : String := "ts"
  /-- The name of a request strategy. -/
  template : String := "axios"
  naming : String := "camel"
  typeOnly : Bool := false
  deriving DecidableEq, Repr

/-- Where the generated modules go and what goes into the request module. -/
structure ApiSettings where
  /-- The directory of the generated modules. -/
  root : String := "src/api"
  /-- Sent along when the document is fetched from an address. -/
  cookie : String := "session=MY_SESSION"
  /-- The source of the run before. -/
  previousSource : String := ""
  /-- Imports of a TypeScript request module, in place of the strategy's own. -/
  headerTs? : Option String := none
  /-- Imports of a JavaScript request module, in place of the strategy's own. -/
  headerJs? : Option String := none
  interfaceImportPath : String := "./interface"
  /-- The name of a formatter. -/
  formatter : String := "builtin"
  substitutions : List Substitution := []
  /-- The tags of the operations to generate; none selects all. -/
  tags : List String := []
  deriving DecidableEq, Repr

/-- Where mock bodies go. -/
structure MockSettings where
  root : String := "mock"
  /-- Whether each body is put into an envelope with a status. -/
  wrap : Bool := false
  deriving DecidableEq, Repr

/-- All stored settings. -/
structure Settings where
  core : CoreSettings := {}
  api : ApiSettings := {}
  mock : MockSettings := {}
  deriving DecidableEq, Repr

/-- Changes to the core settings; what is absent stays. -/
structure CoreUpdate where
  source : Option String := none
  language : Option String := none
  template : Option String := none
  naming : Option String := none
  typeOnly : Option Bool := none
  deriving DecidableEq, Repr

/-- Changes to the settings of the request module; what is absent stays. -/
structure ApiUpdate where
  root : Option String := none
  cookie : Option String := none
  headerTs : Option String := none
  headerJs : Option String := none
  interfaceImportPath : Option String := none
  formatter : Option String := none
  substitutions : Option (List Substitution) := none
  tags : Option (List String) := none
  deriving DecidableEq, Repr

/-- Changes to the mock settings; what is absent stays. -/
structure MockUpdate where
  root : Option String := none
  wrap : Option Bool := none
  deriving DecidableEq, Repr

/-- The imports stored for a language, told by its short name; any name but `js` means TypeScript.
-/
def ApiSettings.headerFor? (api : ApiSettings) (language : String) : Option String :=
  if language = "js" then api.headerJs? else api.headerTs?

namespace Settings

/-- Applies changes to the core settings. -/
def mergeCore (update : CoreUpdate) (settings : Settings) : Settings :=
  let core := settings.core
  { settings with core :=
    { source := update.source.getD core.source
      language := update.language.getD core.language
      template := update.template.getD core.template
      naming := update.naming.getD core.naming
      typeOnly := update.typeOnly.getD core.typeOnly } }

/-- Applies changes to the settings of the request module. -/
def mergeApi (update : ApiUpdate) (settings : Settings) : Settings :=
  let api := settings.api
  { settings with api :=
    { root := update.root.getD api.root
      cookie := update.cookie.getD api.cookie
      previousSource := api.previousSource
      headerTs? := update.headerTs.or api.headerTs?
      headerJs? := update.headerJs.or api.headerJs?
      interfaceImportPath := update.interfaceImportPath.getD api.interfaceImportPath
      formatter := update.formatter.getD api.formatter
      substitutions := update.substitutions.getD api.substitutions
      tags := update.tags.getD api.tags } }

/-- Applies changes to the mock settings. -/
def mergeMock (update : MockUpdate) (settings : Settings) : Settings :=
  { settings with mock :=
    { root := update.root.getD settings.mock.root
      wrap := update.wrap.getD settings.mock.wrap } }

/-- Whether the source is another one than before. -/
def sourceChanged (settings : Settings) : Bool :=
  settings.api.previousSource ≠ settings.core.source

/-- Makes a source the current one and remembers the one before. A change drops the tags. -/
def recordSource (source : String) (settings : Settings) : Settings :=
  let recorded : Settings :=
    { settings with
      core := { settings.core with source }
      api := { settings.api with previousSource := settings.core.source } }
  if recorded.sourceChanged then { recorded with api := { recorded.api with tags := [] } }
  else recorded

end Settings

end TypedClient
