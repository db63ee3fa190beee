/-
# Compilation

One pass from a document to its modules. Definitions are declared and resolved first; operations
refer to them by name only. Every module is formatted before the pass ends, and an error leaves
nothing behind.
-/

import TypedClient.Compile.Normalize
import TypedClient.Declaration.Emit
import TypedClient.Mock.Entry
import TypedClient.Request.Function

namespace TypedClient

/-- What a compilation produces. -/
structure CompileOutput where
  types : Module
  /-- The request module, unless only declarations are generated. -/
  requests? : Option Module
  /-- Mock data, if it is asked for. -/
  mocks? : Option MockArtifact

namespace Compile

/-- What units are attributed to that no unit claims. -/
def wholeModule : String := "<module>"

/-- A module with its text formatted. The spans of its units stay those of the unformatted text. -/
def formatModule (formatter : Formatter) (config : CompileConfig) (module : Module) :
    Except CompileError Module :=
  match formatter module.text config.language config.style with
  | .ok text => .ok { module with text }
  | .error diagnostic =>
    let unit := (diagnostic.line?.bind module.unitAt?).getD wholeModule
    .error (.formatterFailure module.name unit diagnostic module.text)

/-- A declared schema with its type. -/
def define (resolver : TypeResolver) (declared : DeclaredSchema) : Definition :=
  { name := declared.identifier
    sourceName := declared.source.name
    schema := declared.source.schema
    resolved := resolver.resolve declared.source.schema }

/-- The names that are declared. -/
def declaredNames (declared : List DeclaredSchema) : NameSet :=
  .ofList (declared.map (·.identifier))

/-- The resolver for the declarations. -/
def definitionResolver (declared : List DeclaredSchema) : TypeResolver :=
  { known? := some (declaredNames declared) }

/-- The resolver for the request functions, which write some definitions under aliases. -/
def requestResolver (declared : List DeclaredSchema) : TypeResolver :=
  { known? := some (declaredNames declared)
    aliases := Naming.importAliases (declaredNames declared) }

/-- The definitions of a document with their types. -/
def definitions (declared : List DeclaredSchema) : List Definition :=
  declared.map (define (definitionResolver declared))

/-- Checks that function names are distinct, given the functions before. -/
def checkDistinct : (before : List RequestFunction) → List RequestFunction →
    Except CompileError Unit
  | _, [] => .ok ()
  | before, function :: rest =>
    match before.find? (·.name == function.name) with
    | some first => .error (.duplicateOperation function.name first.location function.location)
    | none => checkDistinct (before ++ [function]) rest

/-- The request functions of operations. -/
def requestFunctions (config : CompileConfig) (strategy : RequestStrategy)
    (declared : List DeclaredSchema) (operations : List Operation) : List RequestFunction :=
  operations.map (·.requestFunction (requestResolver declared) config strategy)

/-- The strategy a configuration names. -/
def strategy (config : CompileConfig) (registry : StrategyRegistry) :
    Except CompileError RequestStrategy :=
  match registry.get? config.template.strategy with
  | some strategy => .ok strategy
  | none => .error (.unknownTemplate config.template.strategy registry.names)

/-- The declarations module before it is formatted. -/
def typesModule (config : CompileConfig) (declared : List DeclaredSchema) : Module :=
  .declarations config.typesFile (definitions declared) config.language

/-- The request module before it is formatted. -/
def requestsModule (config : CompileConfig) (strategy : RequestStrategy)
    (declared : List DeclaredSchema) (functions : List RequestFunction) : Module :=
  .requests config.requestsFile functions config.language
    (config.template.header?.getD (strategy.header config.language)) config.interfaceImportPath
    (Naming.importAliases (declaredNames declared))

/-- The formatted request module. -/
def compileRequests (config : CompileConfig) (formatter : Formatter)
    (registry : StrategyRegistry) (declared : List DeclaredSchema)
    (operations : List Operation) : Except CompileError Module := do
  let strategy ← strategy config registry
  let functions := requestFunctions config strategy declared operations
  checkDistinct [] functions
  formatModule formatter config (requestsModule config strategy declared functions)

/-- The mock data of operations. -/
def mocks (config : CompileConfig) (declared : List DeclaredSchema)
    (operations : List Operation) : MockArtifact :=
  let schemas := declared.map fun d => { name := d.identifier, schema := d.source.schema }
  ⟨operations.map fun operation =>
    .ofOperation schemas (operation.functionName config.naming) operation⟩

end Compile

/-- Compiles a document. -/
def Document.compile (document : Document) (config : CompileConfig) (formatter : Formatter)
    (registry : StrategyRegistry) : Except CompileError CompileOutput := do
  let operations := document.selected config.tags
  let declared ← DeclaredSchema.normalize document.definitions
  let types ← Compile.formatModule formatter config (Compile.typesModule config declared)
  let requests? ←
    if config.typeOnly then pure none
    else some <$> Compile.compileRequests config formatter registry declared operations
  .ok
    { types, requests?
      mocks? := if config.mock then some (Compile.mocks config declared operations) else none }

end TypedClient
