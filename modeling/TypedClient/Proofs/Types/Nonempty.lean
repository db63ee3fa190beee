/-
# Types that have a text

Every type has a text of at least one character, and so has every type inside it, unless there is
nothing to write: a choice of no literals, or a definition under an empty alias. Compositions of no
members and records of no fields have texts of their own, so nothing else can go missing.
-/

import TypedClient.Proofs.Schema.Reader
import TypedClient.Proofs.Types.Imports
import TypedClient.Proofs.Types.Resolved

namespace TypedClient

/-! ## Texts of types -/

namespace TypeExpr

/-- The types directly inside a type. -/
def parts : TypeExpr → List TypeExpr
  | array item => [item]
  | map value => [value]
  | record fields => fields.map (·.type)
  | union members | intersection members => members
  | any | object | primitive _ | named _ | literals _ | raw _ => []

/-- A type that has a property, like all its parts. -/
inductive Every (P : TypeExpr → Prop) : TypeExpr → Prop
  | mk {type : TypeExpr} (self : P type) (parts : ∀ part ∈ type.parts, Every P part) :
      Every P type

variable {P : TypeExpr → Prop} {type : TypeExpr} {language : Language}

theorem every_iff : type.Every P ↔ P type ∧ ∀ part ∈ type.parts, part.Every P :=
  ⟨fun ⟨self, parts⟩ => ⟨self, parts⟩, fun ⟨self, parts⟩ => .mk self parts⟩

/-- A type without parts is alone with its property. -/
theorem every_iff_of_parts_eq_nil (noParts : type.parts = []) : type.Every P ↔ P type := by
  rw [every_iff, noParts]
  exact and_iff_left (List.forall_mem_nil _)

/-- A type and everything inside it is written with at least one character. -/
def IsVisible (language : Language) : TypeExpr → Prop :=
  Every (·.render language ≠ "")

theorem isVisible_any (language : Language) : any.IsVisible language :=
  (every_iff_of_parts_eq_nil rfl).mpr (by cases language <;> decide)

theorem isVisible_object (language : Language) : object.IsVisible language :=
  (every_iff_of_parts_eq_nil rfl).mpr (by cases language <;> decide)

theorem isVisible_primitive (scalar : PrimitiveType) (language : Language) :
    (primitive scalar).IsVisible language := by
  refine (every_iff_of_parts_eq_nil rfl).mpr ?_
  rw [render]
  cases scalar <;> decide

theorem isVisible_named_iff {name : String} : (named name).IsVisible language ↔ name ≠ "" :=
  every_iff_of_parts_eq_nil rfl

theorem isVisible_tags (tags : List Json) (language : Language) :
    (raw (Json.array tags).compact).IsVisible language := by
  refine (every_iff_of_parts_eq_nil rfl).mpr ?_
  rw [render, Json.compact]
  simp

theorem isVisible_literals_iff {values : List String} :
    (literals values).IsVisible language ↔ values ≠ [] := by
  rw [IsVisible, every_iff_of_parts_eq_nil rfl, render]
  cases values with
  | nil => simp
  | cons first rest =>
      cases rest with
      | nil => simp [Naming.quoteLiteral]
      | cons second rest => simp [Naming.quoteLiteral, String.intercalate_cons_cons]

theorem isVisible_array_iff {item : TypeExpr} :
    (array item).IsVisible language ↔ item.IsVisible language := by
  rw [IsVisible, every_iff, parts, List.forall_mem_singleton]
  refine and_iff_right ?_
  cases language <;> simp [render]

theorem isVisible_map_iff {value : TypeExpr} :
    (map value).IsVisible language ↔ value.IsVisible language := by
  rw [IsVisible, every_iff, parts, List.forall_mem_singleton]
  refine and_iff_right ?_
  cases language <;> simp [render]

theorem isVisible_record_iff {fields : List TypeField} :
    (record fields).IsVisible language ↔ ∀ field ∈ fields, field.type.IsVisible language := by
  rw [IsVisible, every_iff, parts, List.forall_mem_map]
  refine and_iff_right ?_
  rw [render]
  cases renderFields language fields with
  | nil => simp [recordText]
  | cons first rest => simp [recordText]

/-- The separator of several members is written whatever they are. -/
theorem compose_ne_empty {separator : String} (visible : separator ≠ "")
    {members : List TypeExpr} (several : 2 ≤ members.length) (language : Language) :
    compose language separator members (renderMembers language members) ≠ "" := by
  match members with
  | [] => exact absurd several (by decide)
  | [member] => exact absurd several (Nat.not_succ_le_self 1)
  | first :: second :: rest =>
    simp [renderMembers, compose, String.intercalate_cons_cons, visible]

theorem isVisible_union_iff {members : List TypeExpr} (several : 2 ≤ members.length) :
    (union members).IsVisible language ↔ ∀ member ∈ members, member.IsVisible language := by
  rw [IsVisible, every_iff, render]
  exact and_iff_right (compose_ne_empty (by decide) several language)

theorem isVisible_intersection_iff {members : List TypeExpr} (several : 2 ≤ members.length) :
    (intersection members).IsVisible language ↔
      ∀ member ∈ members, member.IsVisible language := by
  rw [IsVisible, every_iff, render]
  exact and_iff_right (compose_ne_empty (by decide) several language)

end TypeExpr

/-! ## Schemas that show something -/

/-- The schemas directly inside a schema kind that its type shows. Beside properties the schema of
further values is not shown. -/
def SchemaKind.shownParts : SchemaKind → List Schema
  | .object (first :: rest) _ => (first :: rest).map (·.schema)
  | kind => kind.parts

/-- A schema whose type shows no choice among no literals. -/
inductive Schema.OffersChoices : Schema → Prop
  | mk {kind : SchemaKind} {description? format? : Option String} (self : kind ≠ .literals [])
      (parts : ∀ part ∈ kind.shownParts, part.OffersChoices) :
      OffersChoices (.mk kind description? format?)

/-- What of a schema kind makes its schema one whose type shows no choice among no literals. -/
def SchemaKind.OffersChoices (kind : SchemaKind) : Prop :=
  kind ≠ .literals [] ∧ ∀ part ∈ kind.shownParts, part.OffersChoices

theorem SchemaKind.offersChoices_iff {kind : SchemaKind} (noChoice : kind ≠ .literals []) :
    kind.OffersChoices ↔ ∀ part ∈ kind.shownParts, part.OffersChoices :=
  and_iff_right noChoice

theorem Schema.offersChoices_mk {kind : SchemaKind} {description? format? : Option String} :
    (Schema.mk kind description? format?).OffersChoices ↔ kind.OffersChoices :=
  ⟨fun ⟨self, parts⟩ => ⟨self, parts⟩, fun ⟨self, parts⟩ => .mk self parts⟩

namespace TypeResolver

variable {resolver : TypeResolver} {language : Language}

/-- No definition of a set is written under an empty alias. -/
def WritesAll (resolver : TypeResolver) (names : NameSet) : Prop :=
  ∀ name ∈ names, resolver.aliases.lookup name ≠ some ""

theorem writesAll_empty : resolver.WritesAll ∅ :=
  fun name member => absurd member (NameSet.notMem_empty name)

theorem writesAll_union {a b : NameSet} :
    resolver.WritesAll (a.union b) ↔ resolver.WritesAll a ∧ resolver.WritesAll b := by
  simp only [WritesAll, NameSet.mem_union, or_imp, forall_and]

/-- A definition is written, unless its alias is empty. -/
theorem localName_ne_empty_iff {pointer name : String}
    (found : resolver.target? pointer = some name) :
    resolver.localName name ≠ "" ↔ resolver.WritesAll (NameSet.empty.insert name) := by
  have written : name ≠ "" := by
    rintro rfl
    obtain ⟨first, rest, isStart, -⟩ := (isName_of_target? found).start
    cases isStart
  have isEmpty (other : String) : other ∉ NameSet.empty := NameSet.notMem_empty other
  have single : resolver.WritesAll (NameSet.empty.insert name) ↔
      resolver.aliases.lookup name ≠ some "" := by
    simp [WritesAll, NameSet.mem_insert, isEmpty]
  rw [single, localName]
  cases resolver.aliases.lookup name with
  | none => simp [written]
  | some chosen => simp

/-- A composition shows its members, whether one stands alone or several side by side. -/
theorem isVisible_composition_iff {compose : List TypeExpr → TypeExpr} {members : List TypeExpr}
    (composed : 2 ≤ members.length → ((compose members).IsVisible language ↔
      ∀ member ∈ members, member.IsVisible language)) :
    (composition compose members).IsVisible language ↔
      ∀ member ∈ members, member.IsVisible language := by
  match members with
  | [] => simp [composition, TypeExpr.isVisible_any]
  | [member] => simp [composition]
  | first :: second :: rest => exact composed (Nat.le_add_left 2 rest.length)

mutual

/-- The type of a schema is visible throughout if it shows no empty choice and no definition under
an empty alias. -/
theorem isVisible_typeOf_iff : (schema : Schema) →
    ((resolver.typeOf schema).IsVisible language ↔
      schema.OffersChoices ∧ resolver.WritesAll (resolver.importsOf schema))
  | .mk kind _ _ => by
    rw [typeOf, importsOf, Schema.offersChoices_mk]
    exact isVisible_typeOfKind_iff kind

theorem isVisible_typeOfKind_iff : (kind : SchemaKind) →
    ((resolver.typeOfKind kind).IsVisible language ↔
      kind.OffersChoices ∧ resolver.WritesAll (resolver.importsOfKind kind))
  | .reference pointer => by
    rw [typeOfKind, importsOfKind, SchemaKind.offersChoices_iff SchemaKind.noConfusion]
    split
    · rename_i name found
      rw [TypeExpr.isVisible_named_iff, localName_ne_empty_iff found]
      simp [SchemaKind.shownParts, SchemaKind.parts]
    · simp [SchemaKind.shownParts, SchemaKind.parts, TypeExpr.isVisible_any, writesAll_empty]
  | .array (some items) => by
    rw [typeOfKind, importsOfKind, TypeExpr.isVisible_array_iff, isVisible_typeOf_iff items,
      SchemaKind.offersChoices_iff SchemaKind.noConfusion]
    simp [SchemaKind.shownParts, SchemaKind.parts]
  | .object [] (some value) => by
    rw [typeOfKind, importsOfKind, TypeExpr.isVisible_map_iff, isVisible_typeOf_iff value,
      SchemaKind.offersChoices_iff SchemaKind.noConfusion]
    simp [SchemaKind.shownParts, SchemaKind.parts]
  | .object (first :: rest) _ => by
    rw [typeOfKind, importsOfKind, TypeExpr.isVisible_record_iff,
      SchemaKind.offersChoices_iff SchemaKind.noConfusion, SchemaKind.shownParts]
    exact isVisible_fieldsOf_iff (first :: rest)
  | .allOf members => by
    rw [typeOfKind, importsOfKind,
      isVisible_composition_iff TypeExpr.isVisible_intersection_iff,
      SchemaKind.offersChoices_iff SchemaKind.noConfusion]
    exact isVisible_typesOf_iff members
  | .oneOf members => by
    rw [typeOfKind, importsOfKind, isVisible_composition_iff TypeExpr.isVisible_union_iff,
      SchemaKind.offersChoices_iff SchemaKind.noConfusion]
    exact isVisible_typesOf_iff members
  | .literals values => by
    rw [typeOfKind, importsOfKind, TypeExpr.isVisible_literals_iff]
    simp [SchemaKind.OffersChoices, SchemaKind.shownParts, SchemaKind.parts, writesAll_empty]
  | .primitive tag => by
    rw [typeOfKind, importsOfKind, SchemaKind.offersChoices_iff SchemaKind.noConfusion]
    split <;> simp [SchemaKind.shownParts, SchemaKind.parts, TypeExpr.isVisible_any,
      TypeExpr.isVisible_primitive, writesAll_empty]
  | .untyped | .array none | .object [] none | .tags _ => by
    rw [typeOfKind, importsOfKind, SchemaKind.offersChoices_iff SchemaKind.noConfusion]
    simp [SchemaKind.shownParts, SchemaKind.parts, TypeExpr.isVisible_any,
      TypeExpr.isVisible_object, TypeExpr.isVisible_array_iff, TypeExpr.isVisible_tags,
      writesAll_empty]

theorem isVisible_typesOf_iff : (schemas : List Schema) →
    ((∀ type ∈ resolver.typesOf schemas, type.IsVisible language) ↔
      (∀ schema ∈ schemas, schema.OffersChoices) ∧
        resolver.WritesAll (resolver.importsOfMembers schemas))
  | [] => by simp [typesOf, importsOfMembers, writesAll_empty]
  | schema :: rest => by
    rw [typesOf, importsOfMembers, List.forall_mem_cons, List.forall_mem_cons, writesAll_union,
      isVisible_typeOf_iff schema, isVisible_typesOf_iff rest, and_and_and_comm]

theorem isVisible_fieldsOf_iff : (properties : List SchemaProperty) →
    ((∀ field ∈ resolver.fieldsOf properties, field.type.IsVisible language) ↔
      (∀ part ∈ properties.map (·.schema), part.OffersChoices) ∧
        resolver.WritesAll (resolver.importsOfProperties properties))
  | [] => by simp [fieldsOf, importsOfProperties, writesAll_empty]
  | .mk name schema required :: rest => by
    rw [fieldsOf, fieldOf, importsOfProperties, importsOfProperty, List.map_cons,
      List.forall_mem_cons, List.forall_mem_cons, writesAll_union, TypeField.type,
      SchemaProperty.schema, isVisible_typeOf_iff schema, isVisible_fieldsOf_iff rest,
      and_and_and_comm]

end

/-! ## Resolutions -/

/-- In both languages the text of a resolution has at least one character, and so has every type
inside it, exactly if the schema shows no choice among no literals and no definition that is
referred to has an empty alias. -/
theorem resolve_isVisible_iff (resolver : TypeResolver) (schema : Schema) (language : Language) :
    (resolver.resolve schema).type.IsVisible language ↔
      schema.OffersChoices ∧ resolver.WritesAll (resolver.resolve schema).imports :=
  isVisible_typeOf_iff schema

/-- A choice among no literals, as a document may declare it. -/
def emptyChoice : Json := .object [("type", .string "string"), ("enum", .array [])]

/-- An empty choice is written as nothing in both languages, also as what an array holds. -/
theorem not_isVisible_emptyChoice :
    ¬ (({} : TypeResolver).resolve (.ofJson emptyChoice)).type.IsVisible .typeScript ∧
      (({} : TypeResolver).resolve (.ofJson emptyChoice)).render .typeScript = "" ∧
      (({} : TypeResolver).resolve (.ofJson emptyChoice)).render .javaScript = "" ∧
      (({} : TypeResolver).resolve (.ofJson
        (.object [("type", .string "array"), ("items", emptyChoice)]))).render .javaScript =
          "Array<>" := by
  have choice : Schema.ofJson emptyChoice = .mk (.literals []) none none := by
    simp [emptyChoice, Schema.ofJson, Schema.ofMembers, Schema.kindOf, List.lookup_cons,
      Schema.arrayUnder?, Schema.alternativesKey, Json.array?]
  have items : Schema.ofJson (.object [("type", .string "array"), ("items", emptyChoice)]) =
      .mk (.array (some (.mk (.literals []) none none))) none none := by
    rw [← choice]
    simp [emptyChoice, Schema.ofJson, Schema.ofMembers, Schema.kindOf, List.lookup_cons,
      Schema.arrayUnder?, Schema.alternativesKey, Schema.itemsOf, Schema.objectUnder?,
      Json.object?]
  rw [choice, items]
  refine ⟨fun visible => ?_, rfl, rfl, rfl⟩
  exact (TypeExpr.every_iff.mp visible).1 rfl

end TypeResolver

end TypedClient
