/-
# Documents

What a description of an interface declares: named schemas, and operations in path order. Only the
top level has to be an object; everything below is read as far as it makes sense.
-/

import TypedClient.Document.Operation
import TypedClient.Document.Pointer
import TypedClient.Mock.Sample
import TypedClient.Schema.Reader

namespace TypedClient

/-- A description of an interface. -/
structure Document where
  title? : Option String := none
  version? : Option String := none
  /-- The tags declared at the top level. -/
  tags : List String := []
  /-- The named schemas under their declared names. -/
  definitions : List NamedSchema := []
  /-- The operations in path order, those of one path in method order. -/
  operations : List Operation := []

namespace Document

/-- Every tag in use: the declared ones, then those only operations mention, each once. -/
def tagNames (document : Document) : List String :=
  (document.tags ++ document.operations.flatMap (·.tags)).eraseDups

/-- The operations that carry one of the selected tags. -/
def selected (document : Document) (tags : List String) : List Operation :=
  document.operations.filter (·.hasAnyTag tags)

namespace Reader

/-- The number of references followed one after the other. -/
def hopLimit : Nat := 8

/-- What a value refers to. -/
def resolve (root value : Json) : Json :=
  root.dereference hopLimit value

/-- Reads a declared parameter. Cookies are not sent, so they are no parameters here. Where no
schema is given the declaration itself is the schema. -/
def parameter? (raw : Json) : Option Parameter := do
  let name ← raw.getString? "name"
  let location ← (raw.getString? "in").bind ParameterLocation.ofName?
  if location = .cookie then none
  else
    some
      { name, location
        required := location = .path || ((raw.get? "required").bind Json.bool?).getD false
        description? := raw.getString? "description"
        schema := Schema.ofJson ((raw.get? "schema").getD raw) }

/-- Whether two parameters have the same name and location. -/
def sameKey (a b : Parameter) : Bool :=
  a.name == b.name && a.location == b.location

/-- Adds a parameter: one with the same name and location is replaced where it stands. -/
def setParameter (parameter : Parameter) : List Parameter → List Parameter
  | [] => [parameter]
  | first :: rest =>
    if sameKey first parameter then parameter :: rest
    else first :: setParameter parameter rest

/-- The parameters declared for a path and for one of its operations; the operation's declarations
override those of the path. -/
def declaredParameters (root : Json) (shared own : List Json) : List Parameter :=
  ((shared ++ own).filterMap fun raw => parameter? (resolve root raw)).foldl
    (fun parameters parameter => setParameter parameter parameters) []

/-- Whether a media type is sent as a form. -/
def isFormType (mediaType : String) : Bool :=
  Text.startsWith mediaType "multipart/" || mediaType == "application/x-www-form-urlencoded"

/-- The media object whose schema counts: JSON itself, then anything that mentions it, then any
type, then the first one. -/
def chooseMedia? (content : List (String × Json)) : Option Json :=
  content.lookup "application/json"
    <|> (content.find? fun (mediaType, _) => Text.contains mediaType "json").map (·.2)
    <|> content.lookup "*/*"
    <|> content.head?.map (·.2)

/-- A property of a form as a parameter. -/
def formParameter : SchemaProperty → Parameter
  | .mk name schema required =>
    { name, location := .form, required, description? := schema.description?, schema }

/-- The form fields of a request body, if it is a form of known properties. -/
def formParameters (root : Json) (content : List (String × Json)) : List Parameter :=
  match (content.find? fun (mediaType, _) => isFormType mediaType).bind (·.2.get? "schema") with
  | none => []
  | some schema =>
    match (Schema.ofJson (resolve root schema)).kind with
    | .object properties _ => properties.map formParameter
    | _ => []

/-- The name of the parameter that stands for a request body. -/
def bodyName : String := "body"

/-- The parameters of a request body: its form fields, or one that is the whole body. -/
def bodyParameters (root body : Json) : List Parameter :=
  match (body.get? "content").bind Json.object? with
  | none => []
  | some content =>
    match formParameters root content with
    | [] =>
      match (chooseMedia? content).bind (·.get? "schema") with
      | none => []
      | some schema =>
        [{ name := bodyName
           location := .body
           required := ((body.get? "required").bind Json.bool?).getD false
           description? := body.getString? "description"
           schema := Schema.ofJson schema }]
    | fields => fields

/-- Whether a status code counts as success: three characters, the first a two. -/
def isSuccess (code : String) : Bool :=
  code.utf8ByteSize == 3 && Text.startsWith code "2"

/-- The entry with the least key; of equal ones the first. -/
def leastKey? : List (String × Json) → Option (String × Json)
  | [] => none
  | first :: rest =>
    match leastKey? rest with
    | none => some first
    | some least => if least.1 < first.1 then some least else some first

/-- The answer an operation resolves to: that of the least success code, else the default. -/
def successResponse? (responses : List (String × Json)) : Option Json :=
  (leastKey? (responses.filter fun (code, _) => isSuccess code)).map (·.2)
    <|> responses.lookup "default"

/-- The schema of a successful answer. -/
def responseSchema? (root : Json) (responses : List (String × Json)) : Option Schema := do
  let chosen := resolve root (← successResponse? responses)
  match chosen.get? "schema" with
  | some schema => some (Schema.ofJson schema)
  | none =>
    let content ← (chosen.get? "content").bind Json.object?
    let schema ← (← chooseMedia? content).get? "schema"
    some (Schema.ofJson schema)

/-- The items under a key, if an array is there. -/
def items (value : Json) (key : String) : List Json :=
  ((value.get? key).bind Json.array?).getD []

/-- Reads an operation of a path. -/
def operation (root : Json) (path : String) (shared : List Json) (method : HttpMethod)
    (raw : Json) : Operation :=
  { path, method
    operationId? := raw.getString? "operationId"
    summary? := raw.getString? "summary"
    description? := raw.getString? "description"
    deprecated := ((raw.get? "deprecated").bind Json.bool?).getD false
    tags := (items raw "tags").filterMap Json.string?
    parameters := declaredParameters root shared (items raw "parameters") ++
      ((raw.get? "requestBody").map fun body => bodyParameters root (resolve root body)).getD []
    response? := ((raw.get? "responses").bind Json.object?).bind (responseSchema? root) }

/-- The operations of a path, in method order. -/
def pathOperations (root : Json) (path : String) (item : Json) : List Operation :=
  let item := resolve root item
  HttpMethod.all.filterMap fun method =>
    ((item.get? method.key).filter Json.isObject).map fun raw =>
      operation root path (items item "parameters") method raw

/-- The schemas of a section of definitions. -/
def sectionSchemas (value? : Option Json) : List NamedSchema :=
  ((value?.bind Json.object?).getD []).map fun (name, raw) => ⟨name, Schema.ofJson raw⟩

end Reader

/-- Reads a document; anything but an object is none. -/
def ofJson? (root : Json) : Option Document := do
  let members ← root.object?
  let info? := members.lookup "info"
  some
    { title? := info?.bind (·.getString? "title")
      version? := info?.bind (·.getString? "version")
      tags := (Reader.items root "tags").filterMap (·.getString? "name")
      definitions := Reader.sectionSchemas (members.lookup "definitions") ++
        Reader.sectionSchemas ((members.lookup "components").bind (·.get? "schemas"))
      operations := (((members.lookup "paths").bind Json.object?).getD []).flatMap
        fun (path, item) => Reader.pathOperations root path item }

end Document

end TypedClient
