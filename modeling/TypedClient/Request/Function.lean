/-
# Request functions

An operation becomes a function: its parameters become arguments, a strategy writes the body, and
the configured replacements are applied to the whole text.
-/

import TypedClient.Compile.Config
import TypedClient.Module
import TypedClient.Naming.Operation
import TypedClient.Request.Signature
import TypedClient.Request.Strategy

namespace TypedClient

/-- A rendered request function. -/
structure RequestFunction where
  name : String
  /-- Method and path of the operation. -/
  location : String
  text : String
  /-- The definitions the function refers to. -/
  imports : NameSet

namespace Operation

/-- The name of the operation's function. -/
def functionName (operation : Operation) (policy : NamingPolicy) : String :=
  Naming.functionName operation.operationId? operation.method.name operation.path policy

/-- The resolution of the operation's answer; without a schema it may be anything. -/
def resolvedResponse (operation : Operation) (resolver : TypeResolver) : ResolvedType :=
  (operation.response?.map resolver.resolve).getD .any

/-- The path of the operation as a template. -/
def url (operation : Operation) : UrlTemplate :=
  .parse operation.path

/-- The arguments of the operation's function. -/
def arguments (operation : Operation) (resolver : TypeResolver) : Request.Arguments :=
  let parameters := RequestParameters.ofOperation resolver operation
  { first? := parameters.firstArgument?
    path? := parameters.pathType? operation.url }

/-- What a strategy is told about the operation. -/
def requestContext (operation : Operation) (resolver : TypeResolver) (config : CompileConfig) :
    RequestContext :=
  let parameters := RequestParameters.ofOperation resolver operation
  let response := operation.resolvedResponse resolver
  { language := config.language
    name := operation.functionName config.naming
    method := operation.method
    path := operation.path
    signature := (operation.arguments resolver).signature config.language
    url := operation.url.toTemplateLiteral RequestParameters.pathName
    responseType := response.render config.language
    isBinaryResponse := response.isBinary
    query? := parameters.query?
    payload := parameters.payload
    headers := parameters.headerPairs }

/-- The definitions the operation's function refers to. -/
def imports (operation : Operation) (resolver : TypeResolver) : NameSet :=
  (RequestParameters.ofOperation resolver operation).imports.union
    (operation.resolvedResponse resolver).imports

/-- The comment in front of the operation's function. -/
def comment (operation : Operation) (resolver : TypeResolver) (language : Language)
    (strategy : RequestStrategy) : String :=
  let returnType := strategy.returnType ((operation.resolvedResponse resolver).render .javaScript)
  Request.comment language
    (Request.commentLines operation language (operation.arguments resolver) returnType)

end Operation

/-- A text after the given replacements, in order. One without a pattern does nothing. -/
def Substitution.applyAll (substitutions : List Substitution) (text : String) : String :=
  substitutions.foldl
    (fun text s => if s.pattern.isEmpty then text else Text.replaceAll s.pattern s.replacement text)
    text

/-- The request function of an operation. -/
def Operation.requestFunction (operation : Operation) (resolver : TypeResolver)
    (config : CompileConfig) (strategy : RequestStrategy) : RequestFunction :=
  { name := operation.functionName config.naming
    location := operation.location
    text := Substitution.applyAll config.template.substitutions <|
      operation.comment resolver config.language strategy ++
        (strategy.function (operation.requestContext resolver config)).emit
    imports := operation.imports resolver }

namespace RequestFunction

/-- The definitions that several functions refer to. -/
def allImports (functions : List RequestFunction) : NameSet :=
  functions.foldl (fun names function => names.union function.imports) ∅

/-- The import of one definition in an import list, under its alias if it has one. -/
def importEntry (aliases : Naming.Aliases) (name : String) : String :=
  match aliases.lookup name with
  | some localName => name ++ " as " ++ localName
  | none => name

/-- The comment that imports one definition into a plain module. -/
def importComment (path : String) (aliases : Naming.Aliases) (name : String) : String :=
  "/** @typedef \x7bimport(\"" ++ path ++ "\")." ++ name ++ "\x7d " ++
    (aliases.lookup name).getD name ++ " */"

/-- The imports of the definitions that a request module refers to. -/
def importBlock (imports : NameSet) (language : Language) (path : String)
    (aliases : Naming.Aliases) : String :=
  if imports.isEmpty then ""
  else
    match language with
    | .typeScript =>
      "import type \x7b " ++ ", ".intercalate (imports.toList.map (importEntry aliases)) ++
        " \x7d from \"" ++ path ++ "\";"
    | .javaScript => "\n".intercalate (imports.toList.map (importComment path aliases))

end RequestFunction

/-- The module of the given request functions, one unit each, after the imports they need. -/
def Module.requests (name : String) (functions : List RequestFunction) (language : Language)
    (header path : String) (aliases : Naming.Aliases) : Module :=
  functions.foldl (fun module function => module.addUnit function.name function.text)
    ((((start name .requests).addRaw preamble).addRaw header).addRaw
      (RequestFunction.importBlock (RequestFunction.allImports functions) language path aliases))

end TypedClient
