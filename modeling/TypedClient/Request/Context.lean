/-
# Request contexts

All a strategy is told about one request: its name and signature, and an expression for each
channel in which the request carries something.
-/

import TypedClient.Document.Operation
import TypedClient.Naming.Policy

namespace TypedClient

/-- A field of a multipart form. -/
structure FormField where
  key : String
  /-- The expression that reads the value. -/
  access : String
  /-- Whether the value is a file, which is sent as it is. -/
  isBinary : Bool
  deriving DecidableEq, Repr

/-- The payload of a request. -/
inductive Payload where
  | none
  /-- The expression of a JSON payload. -/
  | json (access : String)
  | form (fields : List FormField)
  deriving DecidableEq, Repr

/-- What a strategy renders one request function from. -/
structure RequestContext where
  language : Language
  /-- The name of the function. -/
  name : String
  method : HttpMethod
  /-- The path as declared, for messages. -/
  path : String
  /-- The parameter list with its parentheses. -/
  signature : String
  /-- The template literal that builds the URL. -/
  url : String
  /-- The text of the answer's type. -/
  responseType : String
  /-- Whether the answer is a file. -/
  isBinaryResponse : Bool
  /-- The expression of the query object, if something goes into the query. -/
  query? : Option String
  payload : Payload
  /-- Header names with the expressions of their values. -/
  headers : List (String × String)
  deriving Repr

end TypedClient
