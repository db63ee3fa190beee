/-
# Built-in names in types

Beside the names of definitions, a type is written with names that the language itself gives a
meaning to: `any` and `object`, the scalar types, and `Record` for maps. Where a type has them is a
matter of the schema. Those that no definition can be declared under stand for all that cannot be
told; each of the others stands for a file, a form or a map that the schema shows.
-/

import TypedClient.Proofs.Types.Nonempty

namespace TypedClient

open Naming (predefinedTypes)

variable {name : String}

/-! ## Names in types -/

namespace TypeExpr

/-- The built-in name that a type is written with in TypeScript, without the types inside it. -/
def builtIn? : TypeExpr → Option String
  | any => some "any"
  | object => some "object"
  | primitive type => some type.name
  | map _ => some "Record"
  | named _ | array _ | record _ | literals _ | union _ | intersection _ | raw _ => none

/-- A built-in name stands at the start of the text, and nothing that could belong to the name
follows it. -/
theorem exists_render_of_builtIn? {type : TypeExpr} (isBuiltIn : type.builtIn? = some name) :
    ∃ rest, type.render .typeScript = name ++ rest ∧
      ∀ c ∈ rest.toList.head?, Naming.isIdentifierPart c = false := by
  cases type <;> cases isBuiltIn
  case map value =>
    refine ⟨"<string, " ++ value.render .typeScript ++ ">", ?_, ?_⟩
    · rw [render, ← String.append_assoc, ← String.append_assoc]
      rfl
    · simp only [String.toList_append]
      rintro c ⟨⟩
      decide
  all_goals
    rw [render]
    exact ⟨"", by simp [anyText], by simp⟩

/-- A type that is written with a built-in name, itself or somewhere inside. -/
inductive Uses (name : String) : TypeExpr → Prop
  | here {type : TypeExpr} (isBuiltIn : type.builtIn? = some name) : Uses name type
  | inside {type part : TypeExpr} (isPart : part ∈ type.parts) (uses : Uses name part) :
      Uses name type

theorem uses_iff {type : TypeExpr} :
    type.Uses name ↔ type.builtIn? = some name ∨ ∃ part ∈ type.parts, part.Uses name := by
  constructor
  · rintro (isBuiltIn | ⟨isPart, uses⟩)
    · exact Or.inl isBuiltIn
    · exact Or.inr ⟨_, isPart, uses⟩
  · rintro (isBuiltIn | ⟨part, isPart, uses⟩)
    · exact .here isBuiltIn
    · exact .inside isPart uses

/-- A type without parts has its own name only. -/
theorem uses_iff_of_parts_eq_nil {type : TypeExpr} (noParts : type.parts = []) :
    type.Uses name ↔ type.builtIn? = some name := by
  rw [uses_iff, noParts]
  simp

/-- A type without a name of its own has the names of its parts. -/
theorem uses_iff_of_builtIn?_eq_none {type : TypeExpr} (noName : type.builtIn? = none) :
    type.Uses name ↔ ∃ part ∈ type.parts, part.Uses name := by
  rw [uses_iff, noName]
  simp

/-- Nothing but the predefined type of everything is written for it. -/
theorem not_uses_any (free : name ∉ predefinedTypes) : ¬ any.Uses name := by
  rw [uses_iff_of_parts_eq_nil rfl]
  rintro ⟨⟩
  exact free (by decide)

theorem not_uses_object (free : name ∉ predefinedTypes) : ¬ object.Uses name := by
  rw [uses_iff_of_parts_eq_nil rfl]
  rintro ⟨⟩
  exact free (by decide)

end TypeExpr

/-! ## Names that schemas bring in -/

/-- The built-in name that a schema kind brings into its type, without the schemas inside it: that
of a file, of a form, or of a map. -/
def SchemaKind.builtIn? : SchemaKind → Option String
  | .primitive "file" => some "Blob"
  | .primitive "formData" => some "FormData"
  | .object [] (some _) => some "Record"
  | _ => none

/-- A schema that shows a file, a form or a map, itself or somewhere inside, told by the built-in
name. -/
inductive Schema.Shows (name : String) : Schema → Prop
  | here {kind : SchemaKind} {description? format? : Option String}
      (isBuiltIn : kind.builtIn? = some name) : Shows name (.mk kind description? format?)
  | inside {kind : SchemaKind} {description? format? : Option String} {part : Schema}
      (isPart : part ∈ kind.shownParts) (shows : part.Shows name) :
      Shows name (.mk kind description? format?)

/-- What of a schema kind makes its schema one that shows a file, a form or a map. -/
def SchemaKind.Shows (name : String) (kind : SchemaKind) : Prop :=
  kind.builtIn? = some name ∨ ∃ part ∈ kind.shownParts, part.Shows name

theorem Schema.shows_mk {kind : SchemaKind} {description? format? : Option String} :
    (Schema.mk kind description? format?).Shows name ↔ kind.Shows name := by
  constructor
  · rintro (isBuiltIn | ⟨isPart, shows⟩)
    · exact Or.inl isBuiltIn
    · exact Or.inr ⟨_, isPart, shows⟩
  · rintro (isBuiltIn | ⟨part, isPart, shows⟩)
    · exact .here isBuiltIn
    · exact .inside isPart shows

/-- Definitions may be called like every name that schemas bring in. -/
theorem SchemaKind.mem_of_builtIn? {kind : SchemaKind} (isBuiltIn : kind.builtIn? = some name) :
    name ∈ ["Blob", "FormData", "Record"] := by
  unfold builtIn? at isBuiltIn
  split at isBuiltIn <;> cases isBuiltIn <;> simp

theorem Schema.Shows.mem {schema : Schema} (shows : schema.Shows name) :
    name ∈ ["Blob", "FormData", "Record"] := by
  induction shows with
  | here isBuiltIn => exact SchemaKind.mem_of_builtIn? isBuiltIn
  | inside _ _ ih => exact ih

namespace TypeResolver

variable {resolver : TypeResolver}

/-- A scalar type has a name that is not predefined exactly if it stands for files or forms. -/
theorem builtIn?_primitive_iff (free : name ∉ predefinedTypes) (tag : String) :
    (SchemaKind.primitive tag).builtIn? = some name ↔
      ∃ type, PrimitiveType.ofTag? tag = some type ∧ type.name = name := by
  constructor
  · intro isBuiltIn
    unfold SchemaKind.builtIn? at isBuiltIn
    split at isBuiltIn <;> rename_i same <;> cases isBuiltIn <;> cases same
    · exact ⟨.blob, by decide, rfl⟩
    · exact ⟨.formData, by decide, rfl⟩
  · rintro ⟨type, isTag, rfl⟩
    have ofScalar (scalar : PrimitiveType) (predefined : scalar.name ∈ predefinedTypes)
        (isScalar : some scalar = some type) :
        (SchemaKind.primitive tag).builtIn? = some type.name := by
      cases isScalar
      exact absurd predefined free
    unfold PrimitiveType.ofTag? at isTag
    split_ifs at isTag with _ _ _ isFile isForm
    · exact ofScalar .boolean (by decide) isTag
    · exact ofScalar .number (by decide) isTag
    · exact ofScalar .string (by decide) isTag
    · cases isTag
      rw [isFile]
      rfl
    · cases isTag
      rw [isForm]
      rfl

/-- A composition has the names of its members, whether one stands alone or several side by side. -/
theorem uses_composition_iff {compose : List TypeExpr → TypeExpr} (free : name ∉ predefinedTypes)
    (composed : ∀ members, (compose members).Uses name ↔ ∃ member ∈ members, member.Uses name)
    (members : List TypeExpr) :
    (composition compose members).Uses name ↔ ∃ member ∈ members, member.Uses name := by
  match members with
  | [] => simp [composition, TypeExpr.not_uses_any free]
  | [member] => simp [composition]
  | first :: second :: rest => exact composed (first :: second :: rest)

mutual

/-- The type of a schema is written with a built-in name that is not predefined exactly if the
schema shows what the name stands for. -/
theorem uses_typeOf_iff (free : name ∉ predefinedTypes) : (schema : Schema) →
    ((resolver.typeOf schema).Uses name ↔ schema.Shows name)
  | .mk kind _ _ => by
    rw [typeOf, Schema.shows_mk]
    exact uses_typeOfKind_iff free kind

theorem uses_typeOfKind_iff (free : name ∉ predefinedTypes) : (kind : SchemaKind) →
    ((resolver.typeOfKind kind).Uses name ↔ kind.Shows name)
  | .reference pointer => by
    rw [typeOfKind]
    split
    · rw [TypeExpr.uses_iff_of_builtIn?_eq_none rfl]
      simp [TypeExpr.parts, SchemaKind.Shows, SchemaKind.builtIn?, SchemaKind.shownParts,
        SchemaKind.parts]
    · simp [TypeExpr.not_uses_any free, SchemaKind.Shows, SchemaKind.builtIn?,
        SchemaKind.shownParts, SchemaKind.parts]
  | .array (some items) => by
    rw [typeOfKind, TypeExpr.uses_iff_of_builtIn?_eq_none rfl]
    simp [TypeExpr.parts, SchemaKind.Shows, SchemaKind.builtIn?, SchemaKind.shownParts,
      SchemaKind.parts, uses_typeOf_iff free items]
  | .object [] (some value) => by
    rw [typeOfKind, TypeExpr.uses_iff]
    simp [TypeExpr.parts, TypeExpr.builtIn?, SchemaKind.Shows, SchemaKind.builtIn?,
      SchemaKind.shownParts, SchemaKind.parts, uses_typeOf_iff free value]
  | .object (first :: rest) _ => by
    rw [typeOfKind, TypeExpr.uses_iff_of_builtIn?_eq_none rfl, TypeExpr.parts]
    have fields := uses_fieldsOf_iff free (first :: rest)
    rw [fieldsOf] at fields
    simpa [SchemaKind.Shows, SchemaKind.builtIn?, SchemaKind.shownParts] using fields
  | .allOf members => by
    rw [typeOfKind, uses_composition_iff free fun _ => TypeExpr.uses_iff_of_builtIn?_eq_none rfl]
    simpa [SchemaKind.Shows, SchemaKind.builtIn?, SchemaKind.shownParts, SchemaKind.parts] using
      uses_typesOf_iff free members
  | .oneOf members => by
    rw [typeOfKind, uses_composition_iff free fun _ => TypeExpr.uses_iff_of_builtIn?_eq_none rfl]
    simpa [SchemaKind.Shows, SchemaKind.builtIn?, SchemaKind.shownParts, SchemaKind.parts] using
      uses_typesOf_iff free members
  | .primitive tag => by
    rw [typeOfKind, SchemaKind.Shows, builtIn?_primitive_iff free]
    cases PrimitiveType.ofTag? tag with
    | none => simp [TypeExpr.not_uses_any free, SchemaKind.shownParts, SchemaKind.parts]
    | some type =>
      dsimp only
      rw [TypeExpr.uses_iff_of_parts_eq_nil rfl]
      simp [TypeExpr.builtIn?, SchemaKind.shownParts, SchemaKind.parts]
  | .untyped | .object [] none => by
    rw [typeOfKind]
    simp [TypeExpr.not_uses_any free, TypeExpr.not_uses_object free, SchemaKind.Shows,
      SchemaKind.builtIn?, SchemaKind.shownParts, SchemaKind.parts]
  | .array none | .literals _ | .tags _ => by
    rw [typeOfKind, TypeExpr.uses_iff_of_builtIn?_eq_none rfl]
    simp [TypeExpr.parts, TypeExpr.not_uses_any free, SchemaKind.Shows, SchemaKind.builtIn?,
      SchemaKind.shownParts, SchemaKind.parts]

theorem uses_typesOf_iff (free : name ∉ predefinedTypes) : (schemas : List Schema) →
    ((∃ type ∈ resolver.typesOf schemas, type.Uses name) ↔ ∃ schema ∈ schemas, schema.Shows name)
  | [] => by simp [typesOf]
  | schema :: rest => by
    rw [typesOf, List.exists_mem_cons_iff, List.exists_mem_cons_iff, uses_typeOf_iff free schema,
      uses_typesOf_iff free rest]

theorem uses_fieldsOf_iff (free : name ∉ predefinedTypes) : (properties : List SchemaProperty) →
    ((∃ type ∈ (resolver.fieldsOf properties).map (·.type), type.Uses name) ↔
      ∃ part ∈ properties.map (·.schema), part.Shows name)
  | [] => by simp [fieldsOf]
  | .mk _ schema _ :: rest => by
    rw [fieldsOf, fieldOf, List.map_cons, List.map_cons, List.exists_mem_cons_iff,
      List.exists_mem_cons_iff, TypeField.type, SchemaProperty.schema, uses_typeOf_iff free schema,
      uses_fieldsOf_iff free rest]

end

end TypeResolver

end TypedClient
