/-
# Types that schemas resolve to

Resolving gives less than every type expression: compositions have several members,
records have fields, and named types are declared names or their aliases, hence
identifiers. A list of tags resolves to its text and an empty choice of literals to
an empty one; schemas without these two are the plain ones.
-/

import TypedClient.Proofs.Naming.Alias
import TypedClient.Types.Resolve

namespace TypedClient

/-! ## Plain schemas -/

mutual

/-- Whether no part of a schema is an empty choice of literals or a list of tags. -/
def Schema.isPlain : Schema → Bool
  | .mk kind _ _ => kind.isPlain

/-- Whether no part of a schema kind is an empty choice of literals or a list of tags. -/
def SchemaKind.isPlain : SchemaKind → Bool
  | .reference _ | .untyped | .array none | .primitive _ => true
  | .array (some items) => items.isPlain
  | .object properties none => propertiesArePlain properties
  | .object properties (some additional) =>
    propertiesArePlain properties && additional.isPlain
  | .allOf members | .oneOf members => schemasArePlain members
  | .literals values => !values.isEmpty
  | .tags _ => false

/-- Whether several schemas are plain. -/
def schemasArePlain : List Schema → Bool
  | [] => true
  | schema :: rest => schema.isPlain && schemasArePlain rest

/-- Whether the schemas of several properties are plain. -/
def propertiesArePlain : List SchemaProperty → Bool
  | [] => true
  | .mk _ schema _ :: rest => schema.isPlain && propertiesArePlain rest

end

/-! ## Resolved types -/

/-- A type expression that a schema may resolve to, which is said to be plain or
not. -/
inductive TypeExpr.IsResolved (plain : Prop) : TypeExpr → Prop
  | any : IsResolved plain .any
  | object : IsResolved plain .object
  | primitive (type : PrimitiveType) : IsResolved plain (.primitive type)
  | named {name : String} (isName : Naming.IsName name) : IsResolved plain (.named name)
  | array {item : TypeExpr} (resolved : IsResolved plain item) : IsResolved plain (.array item)
  | record {fields : List TypeField} (nonempty : fields ≠ [])
      (resolved : ∀ field ∈ fields, IsResolved plain field.type) :
      IsResolved plain (.record fields)
  | map {value : TypeExpr} (resolved : IsResolved plain value) : IsResolved plain (.map value)
  | literals {values : List String} (nonempty : plain → values ≠ []) :
      IsResolved plain (.literals values)
  | union {members : List TypeExpr} (several : 2 ≤ members.length)
      (resolved : ∀ member ∈ members, IsResolved plain member) :
      IsResolved plain (.union members)
  | intersection {members : List TypeExpr} (several : 2 ≤ members.length)
      (resolved : ∀ member ∈ members, IsResolved plain member) :
      IsResolved plain (.intersection members)
  | tags (loose : ¬ plain) (tags : List Json) : IsResolved plain (.raw (Json.array tags).compact)

namespace TypeResolver

/-- Definitions are written under their own names or under the aliases of imports. -/
def WritesImports (resolver : TypeResolver) : Prop :=
  resolver.aliases = [] ∨ ∃ declared, resolver.aliases = Naming.importAliases declared

variable {resolver : TypeResolver} {plain : Prop}

/-- A reference that resolves has the name of a definition. -/
theorem isName_of_target? {pointer name : String} (found : resolver.target? pointer = some name) :
    Naming.IsName name := by
  have declared : Naming.referenceName? pointer = some name :=
    (Option.filter_eq_some_iff.mp found).1
  exact Naming.isName_of_isValidIdentifier (Naming.isValidIdentifier_of_definitionName? declared)

/-- A reference that resolves is written as an identifier. -/
theorem isName_localName (writes : resolver.WritesImports) {pointer name : String}
    (found : resolver.target? pointer = some name) :
    Naming.IsName (resolver.localName name) := by
  unfold localName
  cases lookup : resolver.aliases.lookup name with
  | none => exact isName_of_target? found
  | some chosen =>
      rcases writes with none | ⟨names, imports⟩
      · rw [none] at lookup
        cases lookup
      · rw [imports] at lookup
        exact Naming.isName_of_lookup_importAliases lookup

/-- A composition of resolved types is resolved. -/
theorem isResolved_composition {compose : List TypeExpr → TypeExpr} {members : List TypeExpr}
    (composed : 2 ≤ members.length → (compose members).IsResolved plain)
    (resolved : ∀ member ∈ members, member.IsResolved plain) :
    (composition compose members).IsResolved plain := by
  match members with
  | [] => exact .any
  | [member] => exact resolved member List.mem_cons_self
  | first :: second :: rest => exact composed (Nat.le_add_left 2 rest.length)

mutual

/-- Every schema has a resolved type, a plain one if the schema is plain. -/
theorem isResolved_typeOf (writes : resolver.WritesImports) :
    (schema : Schema) → (plain → schema.isPlain = true) →
      (resolver.typeOf schema).IsResolved plain
  | .mk kind _ _, isPlain => by
    rw [typeOf]
    exact isResolved_typeOfKind writes kind isPlain

theorem isResolved_typeOfKind (writes : resolver.WritesImports) :
    (kind : SchemaKind) → (plain → kind.isPlain = true) →
      (resolver.typeOfKind kind).IsResolved plain
  | .reference pointer, _ => by
    rw [typeOfKind]
    split
    · rename_i name found
      exact .named (isName_localName writes found)
    · exact .any
  | .untyped, _ => by
    rw [typeOfKind]
    exact .any
  | .array none, _ => by
    rw [typeOfKind]
    exact .array .any
  | .array (some items), isPlain => by
    rw [typeOfKind]
    exact .array (isResolved_typeOf writes items isPlain)
  | .object [] none, _ => by
    rw [typeOfKind]
    exact .object
  | .object [] (some value), isPlain => by
    rw [typeOfKind]
    refine .map (isResolved_typeOf writes value fun holds => ?_)
    have both := isPlain holds
    rwa [SchemaKind.isPlain, propertiesArePlain, Bool.true_and] at both
  | .object (first :: rest) additional?, isPlain => by
    rw [typeOfKind]
    refine .record (List.cons_ne_nil _ _)
      (isResolved_fieldsOf writes (first :: rest) fun holds => ?_)
    have all := isPlain holds
    cases additional? with
    | none => rwa [SchemaKind.isPlain] at all
    | some additional =>
      rw [SchemaKind.isPlain, Bool.and_eq_true] at all
      exact all.1
  | .literals values, isPlain => by
    rw [typeOfKind]
    refine .literals fun holds => ?_
    have nonempty := isPlain holds
    rw [SchemaKind.isPlain] at nonempty
    simpa using nonempty
  | .allOf members, isPlain => by
    rw [typeOfKind]
    have resolved := isResolved_typesOf writes members isPlain
    exact isResolved_composition (fun several => .intersection several resolved) resolved
  | .oneOf members, isPlain => by
    rw [typeOfKind]
    have resolved := isResolved_typesOf writes members isPlain
    exact isResolved_composition (fun several => .union several resolved) resolved
  | .tags tags, isPlain => by
    rw [typeOfKind]
    exact .tags (fun holds => absurd (isPlain holds) Bool.false_ne_true) tags
  | .primitive tag, _ => by
    rw [typeOfKind]
    split
    · exact .primitive _
    · exact .any

theorem isResolved_typesOf (writes : resolver.WritesImports) :
    (schemas : List Schema) → (plain → schemasArePlain schemas = true) →
      ∀ type ∈ resolver.typesOf schemas, type.IsResolved plain
  | [], _ => by simp [typesOf]
  | schema :: rest, isPlain => by
    have parts : plain → schema.isPlain = true ∧ schemasArePlain rest = true := fun holds => by
      have both := isPlain holds
      rwa [schemasArePlain, Bool.and_eq_true] at both
    rw [typesOf]
    exact List.forall_mem_cons.mpr
      ⟨isResolved_typeOf writes schema fun holds => (parts holds).1,
        isResolved_typesOf writes rest fun holds => (parts holds).2⟩

theorem isResolved_fieldsOf (writes : resolver.WritesImports) :
    (properties : List SchemaProperty) → (plain → propertiesArePlain properties = true) →
      ∀ field ∈ resolver.fieldsOf properties, field.type.IsResolved plain
  | [], _ => by simp [fieldsOf]
  | .mk name schema required :: rest, isPlain => by
    have parts : plain → schema.isPlain = true ∧ propertiesArePlain rest = true := fun holds => by
      have both := isPlain holds
      rwa [propertiesArePlain, Bool.and_eq_true] at both
    rw [fieldsOf, fieldOf]
    exact List.forall_mem_cons.mpr
      ⟨isResolved_typeOf writes schema fun holds => (parts holds).1,
        isResolved_fieldsOf writes rest fun holds => (parts holds).2⟩

end

end TypeResolver

end TypedClient
