/-
# Mock data

For every operation an address to call and an answer to give, and a table of the routes with the
file of each answer.
-/

import TypedClient.Document.Basic
import TypedClient.Url.Template

namespace TypedClient

/-- Mock data of one operation. -/
structure MockEntry where
  /-- The name of the operation's function. -/
  name : String
  /-- The method in upper case. -/
  method : String
  /-- The path template. -/
  path : String
  /-- The path with its placeholders filled in. -/
  sampleUrl : String
  /-- The sample answer. -/
  body : Json
  deriving Repr

namespace MockEntry

/-- The file that holds the answer. -/
def file (entry : MockEntry) : String :=
  entry.name ++ ".json"

/-- The sample of every path parameter; of several with one name the last counts. -/
def parameterSamples (definitions : List NamedSchema) (operation : Operation) :
    List (String × Json) :=
  Json.collectMembers ((operation.parametersIn .path).map fun p =>
    (p.name, p.schema.sample definitions))

/-- Values for every placeholder; one that is not declared is filled in by the number one. -/
def arguments (definitions : List NamedSchema) (operation : Operation) : List (String × Json) :=
  let samples := parameterSamples definitions operation
  samples ++ ((UrlTemplate.parse operation.path).names.filter
    fun name => (samples.lookup name).isNone).map fun name => (name, Json.ofInt 1)

/-- The mock data of an operation whose function has the given name. -/
def ofOperation (definitions : List NamedSchema) (name : String) (operation : Operation) :
    MockEntry :=
  { name
    method := operation.method.name
    path := operation.path
    sampleUrl := (UrlTemplate.parse operation.path).expand (arguments definitions operation)
    body := (operation.response?.map (·.sample definitions)).getD .null }

/-- The entry's row in the route table. -/
def route (entry : MockEntry) : Json :=
  .object [("method", .string entry.method), ("path", .string entry.path),
    ("url", .string entry.sampleUrl), ("file", .string entry.file)]

end MockEntry

/-- Mock data of a document, in the order of its operations. -/
structure MockArtifact where
  entries : List MockEntry
  deriving Repr

/-- The route table. -/
def MockArtifact.routes (mocks : MockArtifact) : Json :=
  .array (mocks.entries.map (·.route))

end TypedClient
