/-
# Names in types

A type refers to definitions by the names they are written under. For a resolved type these are
the local names of its imports, all of them and no others.
-/

import TypedClient.Proofs.Types.Imports

namespace TypedClient

namespace TypeExpr

variable {name : String}

/-! ## Occurrences -/

mutual

/-- The names by which a type refers to definitions, as they are written. -/
def names : TypeExpr → List String
  | named name => [name]
  | array item => names item
  | map value => names value
  | record fields => namesOfFields fields
  | union members | intersection members => namesOfMembers members
  | any | object | primitive _ | literals _ | raw _ => []

/-- The names in several types. -/
def namesOfMembers : List TypeExpr → List String
  | [] => []
  | member :: rest => names member ++ namesOfMembers rest

/-- The names in the type of a field. -/
def namesOfField : TypeField → List String
  | .mk _ type _ _ => names type

/-- The names in the types of several fields. -/
def namesOfFields : List TypeField → List String
  | [] => []
  | field :: rest => namesOfField field ++ namesOfFields rest

end

theorem namesOfField_eq (field : TypeField) : namesOfField field = field.type.names := by
  cases field with
  | mk name type optional description? => rw [namesOfField, TypeField.type]

theorem mem_namesOfMembers {members : List TypeExpr} :
    name ∈ namesOfMembers members ↔ ∃ member ∈ members, name ∈ member.names := by
  induction members with
  | nil => simp [namesOfMembers]
  | cons member rest ih => simp [namesOfMembers, ih]

theorem mem_names_record {fields : List TypeField} :
    name ∈ (record fields).names ↔ ∃ field ∈ fields, name ∈ field.type.names := by
  rw [names]
  induction fields with
  | nil => simp [namesOfFields]
  | cons field rest ih => simp [namesOfFields, namesOfField_eq, ih]

end TypeExpr

/-! ## Resolved types -/

namespace TypeResolver

variable {resolver : TypeResolver} {name : String}

/-- Composing types keeps their names. -/
theorem mem_names_composition {compose : List TypeExpr → TypeExpr} {members : List TypeExpr}
    (composed : (compose members).names = TypeExpr.namesOfMembers members) :
    name ∈ (composition compose members).names ↔ ∃ member ∈ members, name ∈ member.names := by
  match members with
  | [] => simp [composition, TypeExpr.names]
  | [member] => simp [composition]
  | first :: second :: rest =>
    rw [composition, composed, TypeExpr.mem_namesOfMembers] <;> simp

/-- Names are written for the imports of either part. -/
theorem exists_mem_union {a b : NameSet} :
    (∃ target ∈ a.union b, resolver.localName target = name) ↔
      (∃ target ∈ a, resolver.localName target = name) ∨
        ∃ target ∈ b, resolver.localName target = name := by
  simp only [NameSet.mem_union, or_and_right, exists_or]

theorem not_exists_mem_empty :
    ¬ ∃ target ∈ (∅ : NameSet), resolver.localName target = name := by
  rintro ⟨target, member, -⟩
  exact NameSet.notMem_empty target member

mutual

/-- The names in the type of a schema are the local names of its imports. -/
theorem mem_names_typeOf : (schema : Schema) → (name ∈ (resolver.typeOf schema).names ↔
    ∃ target ∈ resolver.importsOf schema, resolver.localName target = name)
  | .mk kind _ _ => by
    rw [typeOf, importsOf]
    exact mem_names_typeOfKind kind

theorem mem_names_typeOfKind : (kind : SchemaKind) →
    (name ∈ (resolver.typeOfKind kind).names ↔
      ∃ target ∈ resolver.importsOfKind kind, resolver.localName target = name)
  | .reference pointer => by
    rw [typeOfKind, importsOfKind]
    split
    · rename_i target found
      rw [TypeExpr.names, List.mem_singleton]
      constructor
      · exact fun same => ⟨target, NameSet.mem_insert.mpr (Or.inl rfl), same.symm⟩
      · rintro ⟨other, member, rfl⟩
        rcases NameSet.mem_insert.mp member with rfl | inEmpty
        · rfl
        · exact absurd inEmpty (NameSet.notMem_empty other)
    · simp [TypeExpr.names, not_exists_mem_empty]
  | .array (some items) => by
    rw [typeOfKind, importsOfKind, TypeExpr.names]
    exact mem_names_typeOf items
  | .object [] (some value) => by
    rw [typeOfKind, importsOfKind, TypeExpr.names]
    exact mem_names_typeOf value
  | .object (first :: rest) _ => by
    rw [typeOfKind, importsOfKind, TypeExpr.mem_names_record, exists_mem_union,
      ← mem_names_fieldOf first, ← mem_names_fieldsOf rest]
    simp only [List.mem_cons, exists_eq_or_imp]
  | .allOf members => by
    rw [typeOfKind, importsOfKind, mem_names_composition (by rw [TypeExpr.names])]
    exact mem_names_typesOf members
  | .oneOf members => by
    rw [typeOfKind, importsOfKind, mem_names_composition (by rw [TypeExpr.names])]
    exact mem_names_typesOf members
  | .primitive tag => by
    rw [typeOfKind, importsOfKind]
    split <;> simp [TypeExpr.names, not_exists_mem_empty]
  | .untyped | .array none | .object [] none | .literals _ | .tags _ => by
    simp [typeOfKind, importsOfKind, TypeExpr.names, not_exists_mem_empty]

theorem mem_names_typesOf : (schemas : List Schema) →
    ((∃ type ∈ resolver.typesOf schemas, name ∈ type.names) ↔
      ∃ target ∈ resolver.importsOfMembers schemas, resolver.localName target = name)
  | [] => by simp [typesOf, importsOfMembers, not_exists_mem_empty]
  | schema :: rest => by
    rw [typesOf, importsOfMembers, exists_mem_union, ← mem_names_typeOf schema,
      ← mem_names_typesOf rest]
    simp only [List.mem_cons, exists_eq_or_imp]

theorem mem_names_fieldOf : (property : SchemaProperty) →
    (name ∈ (resolver.fieldOf property).type.names ↔
      ∃ target ∈ resolver.importsOfProperty property, resolver.localName target = name)
  | .mk _ schema _ => by
    rw [fieldOf, importsOfProperty, TypeField.type]
    exact mem_names_typeOf schema

theorem mem_names_fieldsOf : (properties : List SchemaProperty) →
    ((∃ field ∈ resolver.fieldsOf properties, name ∈ field.type.names) ↔
      ∃ target ∈ resolver.importsOfProperties properties, resolver.localName target = name)
  | [] => by simp [fieldsOf, importsOfProperties, not_exists_mem_empty]
  | property :: rest => by
    rw [fieldsOf, importsOfProperties, exists_mem_union, ← mem_names_fieldOf property,
      ← mem_names_fieldsOf rest]
    simp only [List.mem_cons, exists_eq_or_imp]

end

end TypeResolver

end TypedClient
