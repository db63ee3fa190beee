/-
# Schema fragments

A schema fragment of a document, by kind. Real documents leave out much, so every kind has a
reading for missing parts: an array may have no item schema, an object may have no properties, and
a fragment may say nothing at all.
-/

import TypedClient.Json.Basic

namespace TypedClient

mutual

/-- One schema fragment. -/
inductive Schema where
  | mk (kind : SchemaKind) (description? format? : Option String)

/-- What a schema fragment describes. -/
inductive SchemaKind where
  /-- A reference to another fragment, its pointer kept as written. -/
  | reference (pointer : String)
  /-- All of the members at once. -/
  | allOf (members : List Schema)
  /-- One or any of the members. -/
  | oneOf (members : List Schema)
  /-- Nothing is said about the type. -/
  | untyped
  /-- An array, with the schema of its items if there is one. -/
  | array (items? : Option Schema)
  /-- An object with its declared properties in order, and the schema of any further values.
  Without properties it is free-form. -/
  | object (properties : List SchemaProperty) (additional? : Option Schema)
  /-- Literal values. -/
  | literals (values : List Json)
  /-- A type given as a list of tags. -/
  | tags (tags : List Json)
  /-- A type given as a single tag, known or not. -/
  | primitive (tag : String)

/-- A named property of an object. -/
inductive SchemaProperty where
  | mk (name : String) (schema : Schema) (required : Bool)

end

namespace Schema

/-- What the fragment describes. -/
def kind : Schema → SchemaKind
  | mk kind _ _ => kind

/-- The fragment's description. -/
def description? : Schema → Option String
  | mk _ description? _ => description?

/-- The fragment's format. -/
def format? : Schema → Option String
  | mk _ _ format? => format?

/-- A fragment that says nothing about the type. -/
def untyped : Schema := mk .untyped none none

/-- Whether the fragment is an object with at least one declared property. -/
def hasProperties (schema : Schema) : Bool :=
  match schema.kind with
  | .object (_ :: _) _ => true
  | _ => false

/-- Whether the fragment is a file to upload or download. -/
def isBinary (schema : Schema) : Bool :=
  match schema.kind with
  | .primitive tag => tag == "file"
  | _ => false

end Schema

instance : Inhabited Schema := ⟨Schema.untyped⟩

namespace SchemaProperty

/-- The key as written. -/
def name : SchemaProperty → String
  | mk name _ _ => name

/-- The schema of the value. -/
def schema : SchemaProperty → Schema
  | mk _ schema _ => schema

/-- Whether the property must be present. -/
def required : SchemaProperty → Bool
  | mk _ _ required => required

end SchemaProperty

end TypedClient
