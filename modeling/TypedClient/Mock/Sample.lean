/-
# Sample values

A sample value for every schema. References are followed into the definitions; one that is already
being expanded, or that lies too deep, yields null, so circular definitions end.

Sampling is two recursions. Filling in a schema goes through its parts and asks for the sample of
each reference; following a reference fills in its definition with one level less to go and the
definition's name on the stack.
-/

import TypedClient.Naming.Identifier
import TypedClient.Schema.Basic

namespace TypedClient

/-- A declared schema. -/
structure NamedSchema where
  name : String
  schema : Schema

namespace Sample

/-- The number of references that may be open at once. -/
def depthLimit : Nat := 8

/-- The schema declared under a name; of several declarations the last one counts. -/
def definition? (definitions : List NamedSchema) (name : String) : Option Schema :=
  (definitions.reverse.find? (·.name == name)).map (·.schema)

/-- The sample of a string in a given format. -/
def stringSample : Option String → String
  | some "date-time" => "2024-01-01T00:00:00Z"
  | some "date" => "2024-01-01"
  | some "uuid" => "00000000-0000-4000-8000-000000000000"
  | some "email" => "user@example.com"
  | some "uri" | some "url" => "https://example.com"
  | _ => "string"

/-- One and a half. -/
def sampleNumber : Double :=
  ⟨false, 3 * Nat.pow 2 1073⟩

/-- The sample of a tag in a given format. -/
def primitiveSample (tag : String) (format? : Option String) : Json :=
  if ["integer", "Int64"].contains tag then .ofInt 1
  else if tag = "number" then .number (.double sampleNumber)
  else if ["boolean", "bool", "Boolean"].contains tag then .bool true
  else if tag = "string" then .string (stringSample format?)
  else .null

/-- The sample of a list of tags: that of the first text other than `null`. -/
def tagsSample (tags : List Json) (format? : Option String) : Json :=
  match (tags.filterMap Json.string?).find? (· != "null") with
  | some tag => primitiveSample tag format?
  | none => .null

/-- Adds the members of an object to members collected so far. -/
def mergeMembers (collected added : List (String × Json)) : List (String × Json) :=
  added.foldl (fun members (key, value) => Json.setMember key value members) collected

/-- The sample of an array whose item has the given sample. -/
def arraySample : Json → Json
  | .null => .array []
  | item => .array [item]

mutual

/-- The sample of a schema, given the sample of each reference. -/
def fill (follow : String → Json) : Schema → Json
  | .mk kind _ format? => fillKind follow format? kind

/-- The sample of a schema kind in a given format. -/
def fillKind (follow : String → Json) (format? : Option String) : SchemaKind → Json
  | .reference pointer => follow pointer
  | .allOf members => fillAll follow [] members
  | .oneOf [] => .null
  | .oneOf (member :: _) => fill follow member
  | .untyped => .null
  | .array (some items) => arraySample (fill follow items)
  | .array none => .array []
  | .object [] (some value) => .object [("key", fill follow value)]
  | .object [] none => .object []
  | .object (first :: rest) _ =>
    .object (mergeMembers [] (fillProperty follow first :: fillProperties follow rest))
  | .literals values => values.head?.getD .null
  | .tags tags => tagsSample tags format?
  | .primitive tag => primitiveSample tag format?

/-- The sample of all members at once: their objects merged. A sample that is no object and not
null stands for the whole if it comes before any member of an object, and is left out after. -/
def fillAll (follow : String → Json) (merged : List (String × Json)) : List Schema → Json
  | [] => .object merged
  | member :: rest =>
    match fill follow member with
    | .object added => fillAll follow (mergeMembers merged added) rest
    | .null => fillAll follow merged rest
    | other => if merged.isEmpty then other else fillAll follow merged rest

/-- The sample of a property under its name. -/
def fillProperty (follow : String → Json) : SchemaProperty → String × Json
  | .mk name schema _ => (name, fill follow schema)

/-- The samples of the properties of an object. -/
def fillProperties (follow : String → Json) : List SchemaProperty → List (String × Json)
  | [] => []
  | property :: rest => fillProperty follow property :: fillProperties follow rest

end

/-- The sample of what a pointer refers to while the definitions on the stack are being expanded;
`levels` more references may open. -/
def follow (definitions : List NamedSchema) : (levels : Nat) → (expanding : List String) →
    (pointer : String) → Json
  | 0, _, _ => .null
  | levels + 1, expanding, pointer =>
    match Naming.referenceName? pointer with
    | none => .null
    | some name =>
      if expanding.contains name then .null
      else
        match definition? definitions name with
        | none => .null
        | some target => fill (follow definitions levels (name :: expanding)) target

end Sample

/-- The sample value of a schema among its definitions. -/
def Schema.sample (schema : Schema) (definitions : List NamedSchema) : Json :=
  Sample.fill (Sample.follow definitions Sample.depthLimit []) schema

end TypedClient
