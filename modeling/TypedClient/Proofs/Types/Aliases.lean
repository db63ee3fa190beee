/-
# Names, imports and aliases

Without aliases the imports of a type are the names it mentions, and every one of them is declared
if it is known what is. Aliases change how these names are written: the imports stay, and the type
is the one without aliases, renamed.
-/

import TypedClient.Proofs.Types.Names

namespace TypedClient

namespace TypeExpr

mutual

/-- A type with its names written in another way. -/
def rename (write : String → String) : TypeExpr → TypeExpr
  | named name => named (write name)
  | array item => array (rename write item)
  | map value => map (rename write value)
  | record fields => record (renameFields write fields)
  | union members => union (renameMembers write members)
  | intersection members => intersection (renameMembers write members)
  | any => any
  | object => object
  | primitive type => primitive type
  | literals values => literals values
  | raw text => raw text

/-- Types with their names written in another way. -/
def renameMembers (write : String → String) : List TypeExpr → List TypeExpr
  | [] => []
  | member :: rest => rename write member :: renameMembers write rest

/-- A field with the names in its type written in another way. -/
def renameField (write : String → String) : TypeField → TypeField
  | .mk name type optional description? => .mk name (rename write type) optional description?

/-- Fields with the names in their types written in another way. -/
def renameFields (write : String → String) : List TypeField → List TypeField
  | [] => []
  | field :: rest => renameField write field :: renameFields write rest

end

end TypeExpr

namespace TypeResolver

/-- The resolver that writes every definition under its own name. -/
def unaliased (resolver : TypeResolver) : TypeResolver := { resolver with aliases := [] }

variable (resolver : TypeResolver)

theorem target?_unaliased (pointer : String) :
    resolver.unaliased.target? pointer = resolver.target? pointer := rfl

theorem localName_unaliased (name : String) : resolver.unaliased.localName name = name := rfl

/-! ## Imports -/

mutual

/-- Which definitions a schema refers to is a matter of its pointers only. -/
theorem importsOf_unaliased : (schema : Schema) →
    resolver.unaliased.importsOf schema = resolver.importsOf schema
  | .mk kind _ _ => by
    rw [importsOf, importsOf]
    exact importsOfKind_unaliased kind

theorem importsOfKind_unaliased : (kind : SchemaKind) →
    resolver.unaliased.importsOfKind kind = resolver.importsOfKind kind
  | .reference pointer => by
    rw [importsOfKind, importsOfKind, target?_unaliased]
  | .array (some items) => by
    rw [importsOfKind, importsOfKind]
    exact importsOf_unaliased items
  | .object [] (some value) => by
    rw [importsOfKind, importsOfKind]
    exact importsOf_unaliased value
  | .object (first :: rest) _ => by
    rw [importsOfKind, importsOfKind, importsOfProperty_unaliased first,
      importsOfProperties_unaliased rest]
  | .allOf members | .oneOf members => by
    rw [importsOfKind, importsOfKind]
    exact importsOfMembers_unaliased members
  | .untyped | .array none | .object [] none | .literals _ | .tags _ | .primitive _ => by
    rw [importsOfKind, importsOfKind]

theorem importsOfMembers_unaliased : (schemas : List Schema) →
    resolver.unaliased.importsOfMembers schemas = resolver.importsOfMembers schemas
  | [] => rfl
  | schema :: rest => by
    rw [importsOfMembers, importsOfMembers, importsOf_unaliased schema,
      importsOfMembers_unaliased rest]

theorem importsOfProperty_unaliased : (property : SchemaProperty) →
    resolver.unaliased.importsOfProperty property = resolver.importsOfProperty property
  | .mk _ schema _ => by
    rw [importsOfProperty, importsOfProperty]
    exact importsOf_unaliased schema

theorem importsOfProperties_unaliased : (properties : List SchemaProperty) →
    resolver.unaliased.importsOfProperties properties = resolver.importsOfProperties properties
  | [] => rfl
  | property :: rest => by
    rw [importsOfProperties, importsOfProperties, importsOfProperty_unaliased property,
      importsOfProperties_unaliased rest]

end

/-- Without aliases a type mentions its imports and nothing else. -/
theorem importsOf_eq_names (schema : Schema) :
    resolver.importsOf schema = NameSet.ofList (resolver.unaliased.typeOf schema).names := by
  rw [← importsOf_unaliased]
  refine NameSet.eq_of_mem_iff fun name => ?_
  rw [NameSet.mem_ofList, mem_names_typeOf]
  simp only [localName_unaliased, exists_eq_right]

/-! ## Types -/

/-- Composing types and renaming them go in either order. -/
theorem rename_composition (compose : List TypeExpr → TypeExpr) (write : String → String)
    (composed : ∀ members,
      (compose members).rename write = compose (TypeExpr.renameMembers write members)) :
    (members : List TypeExpr) → (composition compose members).rename write =
      composition compose (TypeExpr.renameMembers write members)
  | [] => rfl
  | [_] => rfl
  | first :: second :: rest => composed (first :: second :: rest)

mutual

/-- Aliases rename the type of a schema. -/
theorem rename_typeOf : (schema : Schema) →
    (resolver.unaliased.typeOf schema).rename resolver.localName = resolver.typeOf schema
  | .mk kind _ _ => by
    rw [typeOf, typeOf]
    exact rename_typeOfKind kind

theorem rename_typeOfKind : (kind : SchemaKind) →
    (resolver.unaliased.typeOfKind kind).rename resolver.localName = resolver.typeOfKind kind
  | .reference pointer => by
    rw [typeOfKind, typeOfKind, target?_unaliased]
    cases resolver.target? pointer with
    | none => rfl
    | some name => rfl
  | .array (some items) => by
    rw [typeOfKind, typeOfKind, TypeExpr.rename, rename_typeOf items]
  | .object [] (some value) => by
    rw [typeOfKind, typeOfKind, TypeExpr.rename, rename_typeOf value]
  | .object (first :: rest) _ => by
    rw [typeOfKind, typeOfKind, TypeExpr.rename, TypeExpr.renameFields, rename_fieldOf first,
      rename_fieldsOf rest]
  | .allOf members => by
    rw [typeOfKind, typeOfKind, rename_composition .intersection _ fun _ => rfl,
      rename_typesOf members]
  | .oneOf members => by
    rw [typeOfKind, typeOfKind, rename_composition .union _ fun _ => rfl, rename_typesOf members]
  | .primitive tag => by
    rw [typeOfKind, typeOfKind]
    cases PrimitiveType.ofTag? tag with
    | none => rfl
    | some type => rfl
  | .untyped | .array none | .object [] none | .literals _ | .tags _ => by
    rw [typeOfKind, typeOfKind]
    rfl

theorem rename_typesOf : (schemas : List Schema) →
    TypeExpr.renameMembers resolver.localName (resolver.unaliased.typesOf schemas) =
      resolver.typesOf schemas
  | [] => rfl
  | schema :: rest => by
    rw [typesOf, typesOf, TypeExpr.renameMembers, rename_typeOf schema, rename_typesOf rest]

theorem rename_fieldOf : (property : SchemaProperty) →
    TypeExpr.renameField resolver.localName (resolver.unaliased.fieldOf property) =
      resolver.fieldOf property
  | .mk _ schema _ => by
    rw [fieldOf, fieldOf, TypeExpr.renameField, rename_typeOf schema]

theorem rename_fieldsOf : (properties : List SchemaProperty) →
    TypeExpr.renameFields resolver.localName (resolver.unaliased.fieldsOf properties) =
      resolver.fieldsOf properties
  | [] => rfl
  | property :: rest => by
    rw [fieldsOf, fieldsOf, TypeExpr.renameFields, rename_fieldOf property, rename_fieldsOf rest]

end

/-! ## Resolutions -/

/-- The imports of a resolution are the names that its type mentions, declared ones if it is known
which are; with aliases they are the same, and each name in the type that has an alias is written
under it. -/
theorem resolve_mentions_imports (schema : Schema) :
    (resolver.unaliased.resolve schema).imports =
        NameSet.ofList (resolver.unaliased.resolve schema).type.names ∧
      (∀ known, resolver.known? = some known →
        ∀ name ∈ (resolver.resolve schema).imports, name ∈ known) ∧
      (resolver.resolve schema).imports = (resolver.unaliased.resolve schema).imports ∧
      (resolver.resolve schema).type =
        (resolver.unaliased.resolve schema).type.rename resolver.localName := by
  refine ⟨?_, fun known isKnown => ?_, ?_, ?_⟩
  · exact (resolver.importsOf_unaliased schema).trans (resolver.importsOf_eq_names schema)
  · exact forall_mem_importsOf (fun _ _ => mem_of_target? isKnown) schema
  · exact (resolver.importsOf_unaliased schema).symm
  · exact (resolver.rename_typeOf schema).symm

/-- A resolver that knows two definitions and writes one of them under an alias. -/
def aliasedResolver : TypeResolver where
  known? := some (.ofList ["Error", "Pet"])
  aliases := [("Error", "ApiError")]

/-- A schema that refers to both of them and to one that is not declared, which also stands where
it does not count. -/
def aliasedSchema : Schema :=
  let reference (pointer : String) : Schema := .mk (.reference pointer) none none
  .mk (.object
    [.mk "errors" (.mk (.array (some (reference "#/definitions/Error"))) none none) true,
      .mk "pet" (.mk (.oneOf [reference "#/definitions/Pet", reference "#/definitions/Ghost"])
        none none) false]
    (some (reference "#/definitions/Ghost"))) none none

theorem resolve_mentions_imports_aliased :
    (∀ name ∈ (aliasedResolver.resolve aliasedSchema).imports,
        name ∈ NameSet.ofList ["Error", "Pet"]) ∧
      (aliasedResolver.resolve aliasedSchema).imports.toList = ["Error", "Pet"] ∧
      (aliasedResolver.resolve aliasedSchema).type =
        .record [.mk "errors" (.array (.named "ApiError")) false none,
          .mk "pet" (.union [.named "Pet", .any]) true none] := by
  obtain ⟨mentions, declared, imports, type⟩ :=
    aliasedResolver.resolve_mentions_imports aliasedSchema
  refine ⟨declared _ rfl, ?_, ?_⟩
  · rw [imports, mentions]
    decide +kernel
  · rw [type]
    rfl

end TypeResolver

end TypedClient
