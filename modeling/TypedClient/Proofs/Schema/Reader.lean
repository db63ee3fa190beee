/-
# Schemas that are read

What is read from a JSON value has its shape: the parts of a schema are read from parts of the
value. As no object has a key twice, no schema declares a property twice.
-/

import TypedClient.Schema.Reader

namespace TypedClient

/-! ## Parts of schemas -/

/-- The schemas directly inside a schema kind. -/
def SchemaKind.parts : SchemaKind → List Schema
  | .allOf members | .oneOf members => members
  | .array items? => items?.toList
  | .object properties additional? => properties.map (·.schema) ++ additional?.toList
  | .reference _ | .untyped | .literals _ | .tags _ | .primitive _ => []

/-- A schema whose kind has a property, like the kinds of all its parts. -/
inductive Schema.Every (P : SchemaKind → Prop) : Schema → Prop
  | mk {kind : SchemaKind} {description? format? : Option String} (self : P kind)
      (parts : ∀ part ∈ kind.parts, Every P part) : Every P (.mk kind description? format?)

/-- An object declares no property twice. -/
def SchemaKind.HasDistinctNames : SchemaKind → Prop
  | .object properties _ => (properties.map (·.name)).Nodup
  | _ => True

/-! ## Parts of values -/

/-- A JSON value no object of which has a key twice. -/
inductive Json.HasDistinctKeys : Json → Prop
  | null : HasDistinctKeys .null
  | bool (value : Bool) : HasDistinctKeys (.bool value)
  | number (value : JsonNumber) : HasDistinctKeys (.number value)
  | string (value : String) : HasDistinctKeys (.string value)
  | array {items : List Json} (each : ∀ item ∈ items, HasDistinctKeys item) :
      HasDistinctKeys (.array items)
  | object {members : List (String × Json)} (distinct : (members.map (·.1)).Nodup)
      (each : ∀ member ∈ members, HasDistinctKeys member.2) : HasDistinctKeys (.object members)

namespace Schema

variable {members inner : List (String × Json)} {items : List Json} {key : String}

/-- Whatever is under a key has distinct keys if everything does. -/
theorem hasDistinctKeys_of_lookup {value : Json} (distinct : (Json.object members).HasDistinctKeys)
    (found : members.lookup key = some value) : value.HasDistinctKeys := by
  cases distinct with
  | object _ each =>
      obtain ⟨before, after, rfl, -⟩ := List.lookup_eq_some_iff.mp found
      exact each (key, value) (List.mem_append_right before List.mem_cons_self)

theorem hasDistinctKeys_of_objectUnder? (distinct : (Json.object members).HasDistinctKeys)
    (found : objectUnder? key members = some inner) : (Json.object inner).HasDistinctKeys := by
  obtain ⟨value, stored, isObject⟩ := Option.bind_eq_some_iff.mp found
  have whole := hasDistinctKeys_of_lookup distinct stored
  cases value <;> cases isObject
  exact whole

theorem hasDistinctKeys_of_arrayUnder? (distinct : (Json.object members).HasDistinctKeys)
    (found : arrayUnder? key members = some items) : (Json.array items).HasDistinctKeys := by
  obtain ⟨value, stored, isArray⟩ := Option.bind_eq_some_iff.mp found
  have whole := hasDistinctKeys_of_lookup distinct stored
  cases value <;> cases isArray
  exact whole

/-! ## Reading -/

/-- Anything but an object says nothing. -/
theorem ofJson_of_isObject {value : Json} (other : value.isObject = false) :
    ofJson value = untyped := by
  rw [ofJson]
  rintro members rfl
  cases other

theorem ofItems_eq_map (items : List Json) : ofItems items = items.map ofJson := by
  induction items with
  | nil => rw [ofItems]; rfl
  | cons item rest ih => rw [ofItems, ih]; rfl

theorem ofProperties_eq_map (required : List String) (properties : List (String × Json)) :
    ofProperties required properties = properties.map fun (name, value) =>
      .mk name (ofJson value) (requiresItself value || required.contains name) := by
  induction properties with
  | nil => rw [ofProperties]; rfl
  | cons property rest ih => rw [ofProperties, ih]; rfl

/-- The kinds that are read: members, the items of an array, an object, and kinds without parts. -/
theorem kindOf_cases (members : List (String × Json)) :
    (∃ key items, arrayUnder? key members = some items ∧
      (kindOf members = .allOf (ofItems items) ∨ kindOf members = .oneOf (ofItems items))) ∨
    kindOf members = .array (itemsOf members) ∨ kindOf members = objectOf members ∨
    ((kindOf members).parts = [] ∧ (kindOf members).HasDistinctNames) := by
  rw [kindOf]
  split
  · simp [SchemaKind.parts, SchemaKind.HasDistinctNames]
  · split
    · rename_i items found
      exact Or.inl ⟨_, items, found, Or.inl rfl⟩
    · split
      · rename_i items found
        exact Or.inl ⟨_, items, found, Or.inr rfl⟩
      · split
        · simp [SchemaKind.parts, SchemaKind.HasDistinctNames]
        · split
          · simp
          · simp
          · simp [SchemaKind.parts, SchemaKind.HasDistinctNames]
          · simp [SchemaKind.parts, SchemaKind.HasDistinctNames]
          · split
            · simp
            · cases itemsOf members with
              | none => simp [SchemaKind.parts, SchemaKind.HasDistinctNames]
              | some items => simp

/-- A value that a part of what the members say may be read from. -/
structure IsInside (members : List (String × Json)) (value : Json) : Prop where
  smaller : sizeOf value < sizeOf (Json.object members)
  distinct : (Json.object members).HasDistinctKeys → value.HasDistinctKeys

theorem isInside_of_objectUnder? (found : objectUnder? key members = some inner) :
    IsInside members (.object inner) where
  smaller := by
    have := sizeOf_objectUnder_lt found
    simp only [Json.object.sizeOf_spec]
    omega
  distinct := fun distinct => hasDistinctKeys_of_objectUnder? distinct found

theorem isInside_of_mem_arrayUnder? (found : arrayUnder? key members = some items) {item : Json}
    (member : item ∈ items) : IsInside members item where
  smaller := by
    have := sizeOf_arrayUnder_lt found
    have := List.sizeOf_lt_of_mem member
    simp only [Json.object.sizeOf_spec]
    omega
  distinct := fun distinct => by
    cases hasDistinctKeys_of_arrayUnder? distinct found with
    | array each => exact each item member

theorem isInside_of_mem_objectUnder? (found : objectUnder? key members = some inner)
    {member : String × Json} (isMember : member ∈ inner) : IsInside members member.2 where
  smaller := by
    have := sizeOf_objectUnder_lt found
    have := List.sizeOf_lt_of_mem isMember
    obtain ⟨name, value⟩ := member
    simp only [Json.object.sizeOf_spec, Prod.mk.sizeOf_spec] at *
    omega
  distinct := fun distinct => by
    cases hasDistinctKeys_of_objectUnder? distinct found with
    | object _ each => exact each member isMember

/-- The schema of an array's items is read from a value inside. -/
theorem exists_ofJson_of_mem_itemsOf {part : Schema} (isItems : part ∈ itemsOf members) :
    ∃ value, part = ofJson value ∧ IsInside members value := by
  rw [itemsOf] at isItems
  split at isItems
  · rename_i inner found
    cases isItems
    exact ⟨.object inner, by rw [ofJson], isInside_of_objectUnder? found⟩
  · cases isItems

/-- The schema of further values is read from a value inside, or says nothing. -/
theorem exists_ofJson_of_mem_furtherOf {part : Schema} (isFurther : part ∈ furtherOf members) :
    ∃ value, part = ofJson value ∧ IsInside members value := by
  rw [furtherOf] at isFurther
  split at isFurther
  · rename_i isTrue
    cases isFurther
    have := Json.sizeOf_lookup_lt isTrue
    refine ⟨.null, (ofJson_of_isObject rfl).symm, ?_, fun _ => .null⟩
    simp only [Json.object.sizeOf_spec, Json.null.sizeOf_spec]
    omega
  · split at isFurther
    · rename_i inner found
      cases isFurther
      exact ⟨.object inner, by rw [ofJson], isInside_of_objectUnder? found⟩
    · cases isFurther

/-- The parts of a schema are read from values inside of its own. -/
theorem exists_ofJson_of_mem_parts {part : Schema} (isPart : part ∈ (kindOf members).parts) :
    ∃ value, part = ofJson value ∧ IsInside members value := by
  rcases kindOf_cases members with ⟨key, items, found, isKind⟩ | isKind | isKind | ⟨noParts, -⟩
  · have inItems : part ∈ ofItems items := by
      rcases isKind with isKind | isKind <;> rwa [isKind] at isPart
    rw [ofItems_eq_map] at inItems
    obtain ⟨item, member, rfl⟩ := List.mem_map.mp inItems
    exact ⟨item, rfl, isInside_of_mem_arrayUnder? found member⟩
  · rw [isKind] at isPart
    exact exists_ofJson_of_mem_itemsOf (Option.mem_toList.mp isPart)
  · rw [isKind, objectOf, SchemaKind.parts, List.mem_append] at isPart
    rcases isPart with inProperties | isFurther
    · split at inProperties
      · rename_i inner found
        rw [ofProperties_eq_map, List.map_map] at inProperties
        obtain ⟨member, isMember, rfl⟩ := List.mem_map.mp inProperties
        exact ⟨member.2, rfl, isInside_of_mem_objectUnder? found isMember⟩
      · cases inProperties
    · exact exists_ofJson_of_mem_furtherOf (Option.mem_toList.mp isFurther)
  · rw [noParts] at isPart
    cases isPart

theorem hasDistinctNames_kindOf (distinct : (Json.object members).HasDistinctKeys) :
    (kindOf members).HasDistinctNames := by
  rcases kindOf_cases members with ⟨_, _, -, isKind | isKind⟩ | isKind | isKind | ⟨-, isDistinct⟩
  · rw [isKind]; trivial
  · rw [isKind]; trivial
  · rw [isKind]; trivial
  · rw [isKind, objectOf, SchemaKind.HasDistinctNames]
    split
    · rename_i inner found
      rw [ofProperties_eq_map, List.map_map]
      cases hasDistinctKeys_of_objectUnder? distinct found with
      | object names _ => exact names
    · exact List.nodup_nil
  · exact isDistinct

/-- What is read declares no property twice, at any depth. -/
theorem every_hasDistinctNames_ofJson : (json : Json) → json.HasDistinctKeys →
    (ofJson json).Every SchemaKind.HasDistinctNames
  | .object members, distinct => by
    rw [ofJson, ofMembers]
    -- Every part is read from a smaller value, which has distinct keys too.
    refine .mk (hasDistinctNames_kindOf distinct) fun part isPart => ?_
    obtain ⟨value, rfl, inside⟩ := exists_ofJson_of_mem_parts isPart
    exact every_hasDistinctNames_ofJson value (inside.distinct distinct)
  | .null, _ | .bool _, _ | .number _, _ | .string _, _ | .array _, _ => by
    rw [ofJson_of_isObject rfl]
    exact .mk trivial (List.forall_mem_nil _)
termination_by json => sizeOf json
decreasing_by exact inside.smaller

end Schema

end TypedClient
