/-
# Operations

An operation is a path and a method, with the parameters it takes and the schema it answers with.
-/

import TypedClient.Schema.Basic

namespace TypedClient

/-- The methods an operation can be declared under. -/
inductive HttpMethod where
  | get
  | post
  | put
  | patch
  | delete
  | head
  | options
  deriving DecidableEq, Repr

namespace HttpMethod

/-- Every method, in the order operations of one path are listed. -/
def all : List HttpMethod := [get, post, put, patch, delete, head, options]

/-- The method in upper case, as it is sent. -/
def name : HttpMethod → String
  | get => "GET"
  | post => "POST"
  | put => "PUT"
  | patch => "PATCH"
  | delete => "DELETE"
  | head => "HEAD"
  | options => "OPTIONS"

/-- The method in lower case, as documents declare it. -/
def key : HttpMethod → String
  | get => "get"
  | post => "post"
  | put => "put"
  | patch => "patch"
  | delete => "delete"
  | head => "head"
  | options => "options"

/-- Reads an upper-case method. -/
def ofName? (text : String) : Option HttpMethod :=
  all.find? (·.name == text)

end HttpMethod

/-- Where a parameter is sent. -/
inductive ParameterLocation where
  /-- A placeholder of the path. -/
  | path
  | query
  | header
  /-- The JSON payload. -/
  | body
  /-- A field of a multipart form. -/
  | form
  | cookie
  deriving DecidableEq, Repr

namespace ParameterLocation

/-- Every location. -/
def all : List ParameterLocation := [path, query, header, body, form, cookie]

/-- The word a document uses for a location. -/
def name : ParameterLocation → String
  | path => "path"
  | query => "query"
  | header => "header"
  | body => "body"
  | form => "formData"
  | cookie => "cookie"

/-- The location a word stands for. -/
def ofName? (text : String) : Option ParameterLocation :=
  all.find? (·.name == text)

end ParameterLocation

/-- A parameter of an operation. -/
structure Parameter where
  name : String
  location : ParameterLocation
  /-- Whether callers must supply it; always so in the path. -/
  required : Bool
  description? : Option String
  schema : Schema

/-- A path and a method. -/
structure Operation where
  /-- The path template. -/
  path : String
  method : HttpMethod
  operationId? : Option String := none
  summary? : Option String := none
  description? : Option String := none
  deprecated : Bool := false
  tags : List String := []
  /-- The parameters, those of the path included. -/
  parameters : List Parameter := []
  /-- The schema of a successful answer, if one is declared. -/
  response? : Option Schema := none

namespace Operation

/-- Method and path, as messages name an operation. -/
def location (operation : Operation) : String :=
  operation.method.name ++ " " ++ operation.path

/-- The parameters sent in a location. -/
def parametersIn (operation : Operation) (location : ParameterLocation) : List Parameter :=
  operation.parameters.filter (·.location == location)

/-- Whether the operation carries one of the selected tags; selecting none selects all. -/
def hasAnyTag (operation : Operation) (selected : List String) : Bool :=
  selected.isEmpty || operation.tags.any (selected.contains ·)

end Operation

end TypedClient
