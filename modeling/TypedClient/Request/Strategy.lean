/-
# Request strategies

A strategy turns a request context into a function. Strategies are values, kept in a registry under
their names: what a user chooses is a name, a header and some replacements, never code that runs.
-/

import TypedClient.Code.Function
import TypedClient.Request.Context

namespace TypedClient

open Code

/-- A way of writing request functions. -/
structure RequestStrategy where
  name : String
  /-- The imports at the top of a request module. -/
  header : Language → String
  /-- The type a function returns, given the type of the answer. -/
  returnType : String → String
  /-- The function of a request. -/
  function : RequestContext → Code.Function

namespace RequestStrategy

/-- The object of header values, after an extra first entry; without entries there is none. -/
def headersObject? (extra : List (String × Expr)) (headers : List (String × String)) :
    Option Expr :=
  match extra.map (fun (name, value) => (Naming.quoteLiteral name, value)) ++
      headers.map (fun (name, access) => (Naming.quoteLiteral name, .raw access)) with
  | [] => none
  | entries => some (.inlineObject entries)

/-- The statement that puts a field into the form, if its value is there. -/
def appendField (language : Language) (field : FormField) : Statement :=
  let access := Expr.raw field.access
  let value :=
    if field.isBinary || language = .javaScript then access else .callOf "String" [access]
  .guarded (.isPresent access) (.callOf "formData.append" [.literal field.key, value])

/-- The statements that fill a form. -/
def formStatements (language : Language) (fields : List FormField) : List Statement :=
  .constant "formData" (.construct "FormData" []) :: fields.map (appendField language)

namespace Axios

/-- The payload as an option of the request. -/
def data : Payload → Expr
  | .none => .raw "\x7b\x7d"
  | .json access => .raw access
  | .form _ => .identifier "formData"

/-- The options of the request. -/
def options (context : RequestContext) : List (String × Expr) :=
  [("url", .raw context.url), ("method", .literal context.method.key),
    ("params", .raw (context.query?.getD "\x7b\x7d")), ("data", data context.payload)] ++
  ((headersObject? [] context.headers).map fun headers => ("headers", headers)).toList ++
  (if context.isBinaryResponse then [("responseType", .literal "blob")] else [])

/-- The call that sends the request. -/
def request (context : RequestContext) : Expr :=
  let typeArguments := match context.language with
    | .typeScript =>
      [context.responseType, "AxiosResponse<" ++ context.responseType ++ ">"]
    | .javaScript => []
  .call "axios.request" typeArguments [.blockObject (options context)]

/-- The function of a request. -/
def function (context : RequestContext) : Code.Function :=
  { name := context.name
    isAsync := false
    parameters := context.signature
    returnType? := none
    body := match context.payload with
      | .form fields =>
        .block (formStatements context.language fields ++ [.returned (request context)])
      | _ => .expression (request context) }

end Axios

/-- Sends requests through the axios library; functions resolve to its response. -/
def axios : RequestStrategy :=
  { name := "axios"
    header := fun
      | .typeScript => "import axios, \x7b AxiosResponse \x7d from \"axios\";"
      | .javaScript => "import axios from \"axios\";"
    returnType := fun answer => "Promise<import(\"axios\").AxiosResponse<" ++ answer ++ ">>"
    function := Axios.function }

namespace Fetch

/-- The type a function returns. -/
def returnType (answer : String) : String :=
  "Promise<" ++ answer ++ ">"

/-- The statements that build the query string from the query object. -/
def queryStatements (query : String) : List Statement :=
  let value := Expr.identifier "value"
  [.constant "query" (.construct "URLSearchParams" []),
    .forEach "[key, value]" (.callOf "Object.entries" [.raw query])
      [.guarded (.isPresent value)
        (.callOf "query.append" [.identifier "key", .callOf "String" [value]])],
    .constant "search" (.callOf "query.toString" [])]

/-- The address to send to. -/
def target : Option String → Expr
  | some _ =>
    .conditional (.identifier "search") (.raw "\x60$\x7burl\x7d?$\x7bsearch\x7d\x60")
      (.identifier "url")
  | none => .identifier "url"

/-- The headers a payload needs. -/
def payloadHeaders : Payload → List (String × Expr)
  | .json _ => [("Content-Type", .literal "application/json")]
  | _ => []

/-- The payload as an option of the request. -/
def bodyOption : Payload → List (String × Expr)
  | .none => []
  | .json access => [("body", .callOf "JSON.stringify" [.raw access])]
  | .form _ => [("body", .identifier "formData")]

/-- The options of the request. -/
def options (context : RequestContext) : List (String × Expr) :=
  [("method", .literal context.method.name)] ++
  ((headersObject? (payloadHeaders context.payload) context.headers).map
    fun headers => ("headers", headers)).toList ++
  bodyOption context.payload

/-- The statements that fill the form, if there is one. -/
def payloadStatements (language : Language) : Payload → List Statement
  | .form fields => formStatements language fields
  | _ => []

/-- The statements that send the request and refuse a failed answer. -/
def sendStatements (context : RequestContext) : List Statement :=
  [.constant "res"
      (.await (.callOf "fetch" [target context.query?, .blockObject (options context)])),
    .branch (.not (.identifier "res.ok"))
      [.thrown (.construct "Error"
        [.binary .add
          (.literal (context.method.name ++ " " ++ context.path ++ " failed with status "))
          (.identifier "res.status")])]]

/-- The statements that read the answer's text, which a file has none of. -/
def readStatements (context : RequestContext) : List Statement :=
  if context.isBinaryResponse then []
  else [.constant "text" (.await (.callOf "res.text" []))]

/-- The answer. -/
def result (context : RequestContext) : Expr :=
  let value := .parenthesized <|
    if context.isBinaryResponse then .await (.callOf "res.blob" [])
    else .conditional (.identifier "text") (.callOf "JSON.parse" [.identifier "text"])
      (.identifier "undefined")
  match context.language with
  | .typeScript => .cast value context.responseType
  | .javaScript => value

/-- The function of a request. -/
def function (context : RequestContext) : Code.Function :=
  { name := context.name
    isAsync := true
    parameters := context.signature
    returnType? := match context.language with
      | .typeScript => some (returnType context.responseType)
      | .javaScript => none
    body := .block <|
      .constant "url" (.raw context.url) ::
        ((context.query?.map queryStatements).getD [] ++
          payloadStatements context.language context.payload ++
          sendStatements context ++ readStatements context ++ [.returned (result context)]) }

end Fetch

/-- Sends requests through the global fetch; functions resolve to the parsed answer. -/
def fetch : RequestStrategy :=
  { name := "fetch"
    header := fun _ => ""
    returnType := Fetch.returnType
    function := Fetch.function }

end RequestStrategy

/-- The strategies that can be chosen, in order of registration. -/
structure StrategyRegistry where
  strategies : List RequestStrategy

namespace StrategyRegistry

/-- A registry without strategies. -/
def empty : StrategyRegistry := ⟨[]⟩

/-- Adds a strategy, in place of an earlier one with its name. -/
def register (registry : StrategyRegistry) (strategy : RequestStrategy) : StrategyRegistry :=
  ⟨registry.strategies.filter (·.name != strategy.name) ++ [strategy]⟩

/-- The strategy under a name. -/
def get? (registry : StrategyRegistry) (name : String) : Option RequestStrategy :=
  registry.strategies.find? (·.name == name)

/-- The names that can be chosen. -/
def names (registry : StrategyRegistry) : List String :=
  registry.strategies.map (·.name)

/-- The registry of the strategies defined here. -/
def builtin : StrategyRegistry :=
  (empty.register .axios).register .fetch

end StrategyRegistry

end TypedClient
