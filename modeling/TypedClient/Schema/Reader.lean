/-
# Reading schema fragments

A JSON value is read leniently: the first keyword that fits decides the kind, a missing type is
inferred from the keywords present, and what cannot be recognized is untyped. A value found under a
key is smaller than the object, which is why reading ends.
-/

import TypedClient.Schema.Basic

namespace TypedClient

namespace Json

theorem sizeOf_lookup_lt {key : String} {members : List (String × Json)} {value : Json}
    (found : members.lookup key = some value) : sizeOf value < sizeOf members := by
  induction members with
  | nil => simp at found
  | cons first rest ih =>
    obtain ⟨name, stored⟩ := first
    rw [List.lookup_cons] at found
    split at found
    · simp only [Option.some.injEq] at found
      subst found
      simp only [List.cons.sizeOf_spec, Prod.mk.sizeOf_spec]
      omega
    · have := ih found
      simp only [List.cons.sizeOf_spec]
      omega

end Json

namespace Schema

/-- The items stored under a key, if an array is stored there. -/
def arrayUnder? (key : String) (members : List (String × Json)) : Option (List Json) :=
  (members.lookup key).bind Json.array?

/-- The members stored under a key, if an object is stored there. -/
def objectUnder? (key : String) (members : List (String × Json)) :
    Option (List (String × Json)) :=
  (members.lookup key).bind Json.object?

theorem sizeOf_arrayUnder_lt {key : String} {members : List (String × Json)} {items : List Json}
    (found : arrayUnder? key members = some items) : sizeOf items < sizeOf members := by
  obtain ⟨value, stored, isArray⟩ := Option.bind_eq_some_iff.1 found
  have := Json.sizeOf_lookup_lt stored
  cases value <;> simp_all [Json.array?]
  omega

theorem sizeOf_objectUnder_lt {key : String} {members inner : List (String × Json)}
    (found : objectUnder? key members = some inner) : sizeOf inner < sizeOf members := by
  obtain ⟨value, stored, isObject⟩ := Option.bind_eq_some_iff.1 found
  have := Json.sizeOf_lookup_lt stored
  cases value <;> simp_all [Json.object?]
  omega

/-- The key that lists alternatives: `oneOf` if it is there, whatever it holds, else `anyOf`. -/
def alternativesKey (members : List (String × Json)) : String :=
  if (members.lookup "oneOf").isSome then "oneOf" else "anyOf"

/-- The names an object requires. -/
def requiredNames (members : List (String × Json)) : List String :=
  ((arrayUnder? "required" members).getD []).filterMap Json.string?

/-- Whether a property requires itself. -/
def requiresItself (property : Json) : Bool :=
  ((property.get? "required").bind Json.bool?).getD false

/-- The tag of a type given as a single tag; a string in binary format is a file. -/
def primitiveTag (tag : String) (format? : Option String) : String :=
  if tag = "string" && format? == some "binary" then "file" else tag

mutual

/-- Reads a JSON value as a schema fragment. Anything but an object is untyped. -/
def ofJson : Json → Schema
  | .object members => ofMembers members
  | _ => untyped
termination_by json => (sizeOf json, 0)

/-- The kind of a fragment with the given members. -/
def kindOf (members : List (String × Json)) : SchemaKind :=
  match (members.lookup "$ref").bind Json.string? with
  | some pointer => .reference pointer
  | none =>
    match _allOf : arrayUnder? "allOf" members with
    | some items => .allOf (ofItems items)
    | none =>
      match _oneOf : arrayUnder? (alternativesKey members) members with
      | some items => .oneOf (ofItems items)
      | none =>
        match arrayUnder? "enum" members with
        | some values => .literals values
        | none =>
          match members.lookup "type" with
          | some (.string "array") => .array (itemsOf members)
          | some (.string "object") => objectOf members
          | some (.string tag) =>
            .primitive (primitiveTag tag ((members.lookup "format").bind Json.string?))
          | some (.array tags) => .tags tags
          | _ =>
            if (members.lookup "properties").isSome ||
                (members.lookup "additionalProperties").isSome then
              objectOf members
            else
              match itemsOf members with
              | some items => .array (some items)
              | none => .untyped
termination_by (sizeOf members, 2)
decreasing_by
  all_goals first
    | exact Prod.Lex.left _ _ (sizeOf_arrayUnder_lt ‹_›)
    | exact Prod.Lex.right _ (by decide)

/-- The schema under `items`, if an object is there. -/
def itemsOf (members : List (String × Json)) : Option Schema :=
  match _items : objectUnder? "items" members with
  | some inner => some (ofMembers inner)
  | none => none
termination_by (sizeOf members, 0)
decreasing_by exact Prod.Lex.left _ _ (sizeOf_objectUnder_lt ‹_›)

/-- A fragment with the given members. -/
def ofMembers (members : List (String × Json)) : Schema :=
  .mk (kindOf members) ((members.lookup "description").bind Json.string?)
    ((members.lookup "format").bind Json.string?)
termination_by (sizeOf members, 3)
decreasing_by exact Prod.Lex.right _ (by decide)

/-- An object with the given members: its properties, and the schema of further values. -/
def objectOf (members : List (String × Json)) : SchemaKind :=
  .object
    (match _properties : objectUnder? "properties" members with
      | some properties => ofProperties (requiredNames members) properties
      | none => [])
    (furtherOf members)
termination_by (sizeOf members, 1)
decreasing_by
  all_goals first
    | exact Prod.Lex.left _ _ (sizeOf_objectUnder_lt ‹_›)
    | exact Prod.Lex.right _ (by decide)

/-- The schema of values under undeclared keys: an object says it, and `true` allows anything. -/
def furtherOf (members : List (String × Json)) : Option Schema :=
  match members.lookup "additionalProperties" with
  | some (.bool true) => some untyped
  | _ =>
    match _further : objectUnder? "additionalProperties" members with
    | some inner => some (ofMembers inner)
    | none => none
termination_by (sizeOf members, 0)
decreasing_by exact Prod.Lex.left _ _ (sizeOf_objectUnder_lt ‹_›)

/-- The fragments of a list of values. -/
def ofItems : List Json → List Schema
  | [] => []
  | item :: rest => ofJson item :: ofItems rest
termination_by items => (sizeOf items, 0)

/-- The properties of an object, given the names it requires. -/
def ofProperties (required : List String) : List (String × Json) → List SchemaProperty
  | [] => []
  | (name, value) :: rest =>
    .mk name (ofJson value) (requiresItself value || required.contains name) ::
      ofProperties required rest
termination_by properties => (sizeOf properties, 0)

end

end Schema

end TypedClient
