/-
# Compilation settings

All that decides what is generated. Nothing is read from disk or the environment here: the caller
builds the settings and passes them in.
-/

import TypedClient.Naming.Policy

namespace TypedClient

/-- The style that formatters keep to. -/
structure FormatStyle where
  /-- The width an external formatter wraps lines at. -/
  printWidth : Nat := 120
  /-- The blanks of one level of indentation. -/
  tabWidth : Nat := 2
  /-- Whether literals of several lines end in a comma. -/
  trailingComma : Bool := false
  deriving DecidableEq, Repr

/-- A replacement of text in every rendered request function. -/
structure Substitution where
  pattern : String
  replacement : String
  deriving DecidableEq, Repr

/-- The choice of a request strategy and its adjustments. -/
structure StrategyOptions where
  /-- The name of a registered strategy. -/
  strategy : String := "axios"
  /-- Imports at the top of the request module, in place of the strategy's own. -/
  header? : Option String := none
  /-- Replacements, applied in order. -/
  substitutions : List Substitution := []
  deriving DecidableEq, Repr

/-- The settings of one compilation. -/
structure CompileConfig where
  language : Language := .typeScript
  naming : NamingPolicy := .camel
  template : StrategyOptions := {}
  /-- Whether only the declarations are generated. -/
  typeOnly : Bool := false
  /-- Whether mock data is produced too. -/
  mock : Bool := false
  /-- Where the request module imports the declarations from. -/
  interfaceImportPath : String := "./interface"
  /-- The tags of the operations to generate; none selects all. -/
  tags : List String := []
  style : FormatStyle := {}
  deriving DecidableEq, Repr

namespace CompileConfig

/-- The file name of the declarations module. -/
def typesFile (config : CompileConfig) : String :=
  "interface." ++ config.language.extension

/-- The file name of the request module. -/
def requestsFile (config : CompileConfig) : String :=
  "api." ++ config.language.extension

end CompileConfig

end TypedClient
