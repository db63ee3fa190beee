/-
# Arguments of a request function

A request function takes its parameters in at most two arguments. The first holds what goes into
query, headers, form and payload; the second holds the placeholders of the path. An operation whose
only such parameter is the payload takes the payload itself as its first argument.
-/

import TypedClient.Request.Context
import TypedClient.Types.Resolve
import TypedClient.Url.Template

namespace TypedClient

/-- A parameter with the resolution of its schema. -/
structure ResolvedParameter where
  parameter : Parameter
  resolved : ResolvedType

namespace ResolvedParameter

/-- The parameter as a field of an argument. -/
def field (p : ResolvedParameter) : TypeField :=
  .mk p.parameter.name p.resolved.type (!p.parameter.required) p.parameter.description?

end ResolvedParameter

/-- The first argument of a request function. -/
structure FirstArgument where
  type : TypeExpr
  /-- Whether every field may be left out, so that the argument has an empty default. -/
  defaultEmpty : Bool
  /-- Whether the whole argument may be left out. -/
  optional : Bool

/-- The parameters of a request by channel. -/
structure RequestParameters where
  /-- The parameters that fill placeholders. -/
  path : List ResolvedParameter
  query : List ResolvedParameter
  headers : List ResolvedParameter
  form : List ResolvedParameter
  /-- The payload: the first parameter declared as one. -/
  body? : Option ResolvedParameter

namespace RequestParameters

/-- The name of the first argument. -/
def firstName : String := "params"

/-- The name of the second argument. -/
def pathName : String := "pathParams"

/-- Drops parameters whose name is taken by an earlier one of the same argument. -/
def keepFirst : (taken : List (String × Bool)) → List Parameter → List Parameter
  | _, [] => []
  | taken, parameter :: rest =>
    let key := (parameter.name, parameter.location == .path)
    if taken.contains key then keepFirst taken rest
    else parameter :: keepFirst (key :: taken) rest

/-- The parameters of an operation, resolved and sorted by channel. -/
def ofOperation (resolver : TypeResolver) (operation : Operation) : RequestParameters :=
  let all := (keepFirst [] operation.parameters).map fun parameter =>
    { parameter, resolved := resolver.resolve parameter.schema : ResolvedParameter }
  let sentIn (location : ParameterLocation) := all.filter (·.parameter.location == location)
  { path := sentIn .path
    query := sentIn .query
    headers := sentIn .header
    form := sentIn .form
    body? := (sentIn .body).head? }

/-- The parameters that are fields of the first argument in any case. -/
def grouped (parameters : RequestParameters) : List ResolvedParameter :=
  parameters.query ++ parameters.headers ++ parameters.form

/-- The payload, where it is the whole first argument. -/
def wholeBody? (parameters : RequestParameters) : Option ResolvedParameter :=
  if parameters.grouped.isEmpty then parameters.body? else none

/-- The parameters that are fields of the first argument. -/
def fieldParameters (parameters : RequestParameters) : List ResolvedParameter :=
  parameters.grouped ++ parameters.body?.toList

/-- Reading a parameter off the first argument. -/
def access (p : ResolvedParameter) : String :=
  Naming.propertyAccess firstName p.parameter.name

/-- The first argument, if the request needs one. -/
def firstArgument? (parameters : RequestParameters) : Option FirstArgument :=
  match parameters.wholeBody? with
  | some body =>
    some { type := body.resolved.type, defaultEmpty := false, optional := !body.parameter.required }
  | none =>
    match parameters.fieldParameters.map (·.field) with
    | [] => none
    | fields =>
      some { type := .record fields, defaultEmpty := fields.all (·.optional), optional := false }

/-- The expression of the query object. It is the first argument itself if every field of that goes
into the query. -/
def query? (parameters : RequestParameters) : Option String :=
  if parameters.query.isEmpty then none
  else if parameters.query.length = parameters.fieldParameters.length then some firstName
  else
    some ("\x7b " ++ ", ".intercalate (parameters.query.map fun p =>
      Naming.propertyKey p.parameter.name ++ ": " ++ access p) ++ " \x7d")

/-- A parameter as a form field. -/
def formField (p : ResolvedParameter) : FormField :=
  { key := p.parameter.name, access := access p, isBinary := p.resolved.isBinary }

/-- The payload of the request: the form if there is one, else the body. -/
def payload (parameters : RequestParameters) : Payload :=
  match parameters.wholeBody? with
  | some _ => .json firstName
  | none =>
    if parameters.form.isEmpty then
      match parameters.body? with
      | some body => .json (access body)
      | none => .none
    else .form (parameters.form.map formField)

/-- The header names with the expressions of their values. -/
def headerPairs (parameters : RequestParameters) : List (String × String) :=
  parameters.headers.map fun p => (p.parameter.name, access p)

/-- The field of a placeholder; one that is not declared may be anything. -/
def placeholderField (parameters : RequestParameters) (name : String) : TypeField :=
  match parameters.path.find? (·.parameter.name == name) with
  | some p => .mk name p.resolved.type false p.parameter.description?
  | none => .mk name .any false none

/-- The type of the second argument, if the path has placeholders. -/
def pathType? (parameters : RequestParameters) (url : UrlTemplate) : Option TypeExpr :=
  match url.names.map parameters.placeholderField with
  | [] => none
  | fields => some (.record fields)

/-- The definitions the arguments refer to. -/
def imports (parameters : RequestParameters) : NameSet :=
  (parameters.path ++ parameters.fieldParameters).foldl
    (fun names p => names.union p.resolved.imports) ∅

end RequestParameters

end TypedClient
