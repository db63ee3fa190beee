/-
# Samples have the types of their schemas

A schema is read twice: as a type, which the clients of an interface are compiled against, and as a
sample, which mock data is made of. The two readings agree. A type stops at the name of a
definition and a sample goes on into it, so a name is taken to stand for the type of the definition
that is declared under it. Where a sample stops it is null, and null is a value of every type.
-/

import TypedClient.Proofs.Compile.References
import TypedClient.Proofs.Mock.Walk
import TypedClient.Proofs.Schema.Reader

namespace TypedClient

/-! ## Values of types -/

/-- A JSON value of a type, if names stand for the types that they mean. Null has every type, and a
binary type or one that is only a text has no other value. -/
inductive Json.HasType (means : String → TypeExpr → Prop) : Json → TypeExpr → Prop
  | null (type : TypeExpr) : HasType means .null type
  | any (value : Json) : HasType means value .any
  | object (members : List (String × Json)) : HasType means (.object members) .object
  | boolean (value : Bool) : HasType means (.bool value) (.primitive .boolean)
  | number (value : JsonNumber) : HasType means (.number value) (.primitive .number)
  | string (value : String) : HasType means (.string value) (.primitive .string)
  | named {value : Json} {name : String} {type : TypeExpr} (isMeant : means name type)
      (typed : HasType means value type) : HasType means value (.named name)
  | array {items : List Json} {type : TypeExpr} (each : ∀ item ∈ items, HasType means item type) :
      HasType means (.array items) (.array type)
  /-- The keys of the fields, in their order and no others. -/
  | record {members : List (String × Json)} {fields : List TypeField}
      (keys : members.map (·.1) = fields.map (·.name))
      (each : ∀ pair ∈ members.zip fields, HasType means pair.1.2 pair.2.type) :
      HasType means (.object members) (.record fields)
  | map {members : List (String × Json)} {type : TypeExpr}
      (each : ∀ member ∈ members, HasType means member.2 type) :
      HasType means (.object members) (.map type)
  | literals {value : Json} {texts : List String}
      (listed : TypeResolver.literalText value ∈ texts) : HasType means value (.literals texts)
  | union {value : Json} {type : TypeExpr} {types : List TypeExpr} (member : type ∈ types)
      (typed : HasType means value type) : HasType means value (.union types)
  | intersection {value : Json} {types : List TypeExpr}
      (each : ∀ type ∈ types, HasType means value type) : HasType means value (.intersection types)

/-! ## Schemas with a sample of their type -/

/-- Whether a schema kind is neither a composition of all its members nor a list of tags. -/
def SchemaKind.isSingle : SchemaKind → Bool
  | .allOf _ | .tags _ => false
  | _ => true

/-- Whether a schema kind says enough for a sample other than null. -/
def SchemaKind.isConcrete : SchemaKind → Bool
  | .array _ | .object _ _ => true
  | .primitive tag =>
    [some .boolean, some .number, some .string].contains (PrimitiveType.ofTag? tag)
  | _ => false

/-- A schema that is read from a JSON value, with only such kinds in it. -/
structure Schema.IsSingle (schema : Schema) : Prop where
  read : ∃ json : Json, json.HasDistinctKeys ∧ schema = .ofJson json
  every : schema.Every (·.isSingle = true)

theorem Schema.Every.and {P Q : SchemaKind → Prop} {schema : Schema} (first : schema.Every P)
    (second : schema.Every Q) : schema.Every fun kind => P kind ∧ Q kind := by
  induction first with
  | mk self parts ih =>
      cases second with
      | mk other others =>
          exact .mk ⟨self, other⟩ fun part isPart => ih part isPart (others part isPart)

namespace Sample

/-! ## Samples of kinds -/

theorem setMember_of_notMem {key : String} {value : Json} {members : List (String × Json)}
    (absent : key ∉ members.map (·.1)) :
    Json.setMember key value members = members ++ [(key, value)] := by
  induction members with
  | nil => rfl
  | cons first rest ih =>
      obtain ⟨name, stored⟩ := first
      rw [List.map_cons, List.mem_cons, not_or] at absent
      rw [Json.setMember, if_neg (Ne.symm absent.1), ih absent.2]
      rfl

/-- Members under new keys are added at the end. -/
theorem mergeMembers_of_nodup {collected added : List (String × Json)}
    (distinct : ((collected ++ added).map (·.1)).Nodup) :
    mergeMembers collected added = collected ++ added := by
  induction added generalizing collected with
  | nil => simp [mergeMembers]
  | cons first rest ih =>
      obtain ⟨key, value⟩ := first
      have absent : key ∉ collected.map (·.1) := by
        rw [List.map_append, List.nodup_append] at distinct
        exact fun member => distinct.2.2 key member key List.mem_cons_self rfl
      rw [← List.singleton_append, ← List.append_assoc] at distinct ⊢
      rw [← ih distinct, ← setMember_of_notMem absent]
      rfl

variable {means : String → TypeExpr → Prop} {resolver : TypeResolver} {follow : String → Json}

theorem fieldsOf_eq_map (properties : List SchemaProperty) :
    resolver.fieldsOf properties = properties.map resolver.fieldOf := by
  induction properties with
  | nil => rfl
  | cons property rest ih => rw [TypeResolver.fieldsOf, ih]; rfl

/-- The sample of a tag is of the type that the tag stands for. -/
theorem hasType_primitiveSample (tag : String) (format? : Option String) :
    (primitiveSample tag format?).HasType means (resolver.typeOfKind (.primitive tag)) := by
  rw [TypeResolver.typeOfKind]
  unfold primitiveSample
  split
  · rename_i isWhole
    have isNumber : PrimitiveType.ofTag? tag = some .number := by
      simp only [List.contains_eq_mem, List.mem_cons, List.not_mem_nil, or_false,
        decide_eq_true_eq] at isWhole
      rcases isWhole with rfl | rfl <;> decide
    rw [isNumber]
    exact .number _
  · split
    · rename_i isNumber
      subst isNumber
      exact .number _
    · split
      · rename_i isTruth
        have isBoolean : PrimitiveType.ofTag? tag = some .boolean := by
          rw [PrimitiveType.ofTag?, if_pos isTruth]
        rw [isBoolean]
        exact .boolean true
      · split
        · rename_i isText
          subst isText
          exact .string _
        · exact .null _

/-- The samples of properties make a record, with the keys of its fields and no others. -/
theorem hasType_record {properties : List SchemaProperty}
    (distinct : (properties.map (·.name)).Nodup)
    (each : ∀ property ∈ properties,
      (fill follow property.schema).HasType means (resolver.typeOf property.schema)) :
    (Json.object (mergeMembers [] (fillProperties follow properties))).HasType means
      (.record (resolver.fieldsOf properties)) := by
  have keys : (fillProperties follow properties).map (·.1) = properties.map (·.name) := by
    rw [fillProperties_eq_map, List.map_map]
    rfl
  rw [mergeMembers_of_nodup (by rwa [List.nil_append, keys]), List.nil_append, fieldsOf_eq_map]
  refine .record ?_ ?_
  · rw [keys, List.map_map]
    refine List.map_congr_left fun property _ => ?_
    cases property with
    | mk name schema required => rfl
  · rw [fillProperties_eq_map, List.zip_map']
    intro pair member
    obtain ⟨property, isProperty, rfl⟩ := List.mem_map.mp member
    have typed := each property isProperty
    cases property with
    | mk name schema required => exact typed

/-- The sample of a kind is of its type, if those of its parts and of references are. -/
theorem hasType_fillKind {kind : SchemaKind} {format? : Option String}
    (ofReference : ∀ pointer, (follow pointer).HasType means
      (resolver.typeOfKind (.reference pointer)))
    (isSingle : kind.isSingle = true) (distinct : kind.HasDistinctNames)
    (ofParts : ∀ part ∈ kind.parts, (fill follow part).HasType means (resolver.typeOf part)) :
    (fillKind follow format? kind).HasType means (resolver.typeOfKind kind) := by
  match kind with
  | .reference pointer => rw [fillKind]; exact ofReference pointer
  | .oneOf [] => rw [fillKind]; exact .null _
  | .oneOf [member] =>
      rw [fillKind]
      exact ofParts member List.mem_cons_self
  | .oneOf (member :: second :: rest) =>
      rw [fillKind]
      exact .union List.mem_cons_self (ofParts member List.mem_cons_self)
  | .untyped => rw [fillKind]; exact .null _
  | .array none => rw [fillKind, TypeResolver.typeOfKind]; exact .array (List.forall_mem_nil _)
  | .array (some items) =>
      rw [fillKind, TypeResolver.typeOfKind]
      have ofItems := ofParts items List.mem_cons_self
      unfold arraySample
      split
      · exact .array (List.forall_mem_nil _)
      · exact .array (List.forall_mem_singleton.mpr ofItems)
  | .object [] none => rw [fillKind, TypeResolver.typeOfKind]; exact .object _
  | .object [] (some value) =>
      rw [fillKind, TypeResolver.typeOfKind]
      exact .map (List.forall_mem_singleton.mpr (ofParts value List.mem_cons_self))
  | .object (first :: rest) further? =>
      rw [fillKind, TypeResolver.typeOfKind]
      have distinctNames : ((first :: rest).map (·.name)).Nodup := distinct
      refine hasType_record distinctNames fun property member => ?_
      exact ofParts property.schema (List.mem_append_left _ (List.mem_map_of_mem member))
  | .literals [] => rw [fillKind]; exact .null _
  | .literals (value :: rest) =>
      rw [fillKind, TypeResolver.typeOfKind]
      exact .literals List.mem_cons_self
  | .primitive tag => rw [fillKind]; exact hasType_primitiveSample tag format?

/-! ## Samples of schemas -/

/-- The sample of a schema is of its type, if those of references are. -/
theorem hasType_fill {schema : Schema}
    (ofReference : ∀ pointer, (follow pointer).HasType means
      (resolver.typeOfKind (.reference pointer)))
    (every : schema.Every fun kind => kind.isSingle = true ∧ kind.HasDistinctNames) :
    (fill follow schema).HasType means (resolver.typeOf schema) := by
  induction every with
  | mk self _ ofParts =>
      rw [fill, TypeResolver.typeOf]
      exact hasType_fillKind ofReference self.1 self.2 ofParts

/-- Tags of scalar types have samples other than null. -/
theorem primitiveSample_ne_null {tag : String} {format? : Option String}
    (concrete : (SchemaKind.primitive tag).isConcrete = true) :
    primitiveSample tag format? ≠ .null := by
  grind [SchemaKind.isConcrete, PrimitiveType.ofTag?, primitiveSample, Json.ofInt]

/-- Arrays, objects and tags of scalar types have samples other than null. -/
theorem fill_ne_null {schema : Schema} (concrete : schema.kind.isConcrete = true) :
    fill follow schema ≠ .null := by
  obtain ⟨kind, description?, format?⟩ := schema
  rw [fill]
  match kind, concrete with
  | .array none, _ => simp [fillKind]
  | .array (some items), _ =>
      rw [fillKind]
      cases fill follow items <;> simp [arraySample]
  | .object [] none, _ => simp [fillKind]
  | .object [] (some value), _ => simp [fillKind]
  | .object (first :: rest) _, _ => simp [fillKind]
  | .primitive tag, concrete =>
      rw [fillKind]
      exact primitiveSample_ne_null concrete

end Sample

namespace Compile

open Sample

variable {declared : List DeclaredSchema}

/-- A definition as references are followed to it. -/
def sampled (d : DeclaredSchema) : NamedSchema :=
  { name := d.identifier, schema := d.source.schema }

/-- A name stands for the type of the definition that is declared under it. -/
def Means (declared : List DeclaredSchema) (name : String) (type : TypeExpr) : Prop :=
  ∃ definition ∈ definitions declared, definition.name = name ∧ definition.resolved.type = type

/-- What a reference leads to is of the type of the reference, however deep it lies. -/
theorem hasType_follow
    (every : ∀ d ∈ declared, d.source.schema.Every fun kind =>
      kind.isSingle = true ∧ kind.HasDistinctNames)
    (levels : Nat) (expanding : List String) (pointer : String) :
    (follow (declared.map sampled) levels expanding pointer).HasType (Means declared)
      ((definitionResolver declared).typeOfKind (.reference pointer)) := by
  -- Definitions may lead back to each other, so the induction is on the depth, not on schemas.
  induction levels generalizing expanding pointer with
  | zero => exact .null _
  | succ levels ih =>
      rw [follow]
      split
      · exact .null _
      · rename_i name isName
        split
        · exact .null _
        · split
          · exact .null _
          · rename_i target found
            obtain ⟨_, isSampled, rfl, rfl⟩ := exists_of_definition? found
            obtain ⟨d, member, rfl⟩ := List.mem_map.mp isSampled
            rw [typeOfKind_reference isName (List.mem_map_of_mem member)]
            have isMeant : Means declared d.identifier
                ((definitionResolver declared).typeOf d.source.schema) :=
              ⟨define (definitionResolver declared) d, List.mem_map_of_mem member, rfl, rfl⟩
            exact .named isMeant (hasType_fill (ih _) (every d member))

/-- The sample of a schema is of the type that the schema resolves to among its definitions, each of
which is followed under the name that the type stops at. It is null only where the schema says too
little or leads too far. -/
theorem hasType_sample {schema : Schema} (isSingle : schema.IsSingle)
    (areSingle : ∀ d ∈ declared, d.source.schema.IsSingle) :
    (schema.sample (declared.map sampled)).HasType (Means declared)
        ((definitionResolver declared).resolve schema).type ∧
      (schema.kind.isConcrete = true → schema.sample (declared.map sampled) ≠ .null) := by
  have every : ∀ {schema : Schema}, schema.IsSingle → schema.Every fun kind =>
      kind.isSingle = true ∧ kind.HasDistinctNames := by
    rintro _ ⟨⟨json, distinct, rfl⟩, single⟩
    exact single.and (Schema.every_hasDistinctNames_ofJson json distinct)
  refine ⟨hasType_fill (hasType_follow ?_ _ _) (every isSingle), fill_ne_null⟩
  exact fun d member => every (areSingle d member)

/-! ## A node with a next one -/

/-- A value that points to nodes. -/
def nodePointer : Json :=
  .object [("$ref", .string "#/definitions/Node")]

/-- A node has a number and a next node. -/
def nodeJson : Json :=
  .object [("properties",
    .object [("id", .object [("type", .string "integer")]), ("next", nodePointer)])]

/-- The only definition, which refers to itself. -/
def nodes : List DeclaredSchema :=
  [⟨"Node", ⟨"Node", .ofJson nodeJson⟩⟩]

/-- A list of nodes. -/
def nodeListJson : Json :=
  .object [("type", .string "array"), ("items", nodePointer)]

theorem hasDistinctKeys_nodePointer : nodePointer.HasDistinctKeys :=
  .object (by decide) (List.forall_mem_singleton.mpr (.string _))

theorem ofJson_nodePointer :
    Schema.ofJson nodePointer = .mk (.reference "#/definitions/Node") none none := by
  simp [nodePointer, Schema.ofJson, Schema.ofMembers, Schema.kindOf, List.lookup_cons, Json.string?]

theorem isSingle_nodeJson : (Schema.ofJson nodeJson).IsSingle where
  read := by
    refine ⟨nodeJson, .object (by decide) (List.forall_mem_singleton.mpr ?_), rfl⟩
    have number : (Json.object [("type", .string "integer")]).HasDistinctKeys :=
      .object (by decide) (List.forall_mem_singleton.mpr (.string _))
    refine .object (by decide) ?_
    simp [number, hasDistinctKeys_nodePointer]
  every := by
    have shape : Schema.ofJson nodeJson = .mk (.object
        [.mk "id" (.mk (.primitive "integer") none none) false,
          .mk "next" (.mk (.reference "#/definitions/Node") none none) false] none) none none := by
      simp [nodeJson, nodePointer, Schema.ofJson, Schema.ofMembers, Schema.kindOf, List.lookup_cons,
        Json.string?, Schema.arrayUnder?, Schema.alternativesKey, Schema.objectOf,
        Schema.objectUnder?, Json.object?, Schema.ofProperties, Schema.furtherOf,
        Schema.requiredNames, Schema.requiresItself, Json.get?, Schema.primitiveTag]
    rw [shape]
    refine .mk rfl (List.forall_mem_cons.mpr ⟨?_, List.forall_mem_singleton.mpr ?_⟩)
    · exact .mk rfl (List.forall_mem_nil _)
    · exact .mk rfl (List.forall_mem_nil _)

theorem ofJson_nodeListJson : Schema.ofJson nodeListJson =
    .mk (.array (some (.mk (.reference "#/definitions/Node") none none))) none none := by
  have items : Schema.itemsOf [("type", .string "array"), ("items", nodePointer)] =
      some (.ofJson nodePointer) := by
    simp [Schema.itemsOf, Schema.objectUnder?, List.lookup_cons, nodePointer, Json.object?,
      Schema.ofJson]
  simp [nodeListJson, Schema.ofJson, Schema.ofMembers, Schema.kindOf, List.lookup_cons,
    Schema.arrayUnder?, Schema.alternativesKey, items, ofJson_nodePointer]

theorem isSingle_nodeListJson : (Schema.ofJson nodeListJson).IsSingle where
  read := by
    refine ⟨nodeListJson, .object (by decide) ?_, rfl⟩
    simp [hasDistinctKeys_nodePointer, Json.HasDistinctKeys.string]
  every := by
    rw [ofJson_nodeListJson]
    refine .mk rfl (List.forall_mem_singleton.mpr ?_)
    exact .mk rfl (List.forall_mem_nil _)

theorem hasType_sample_nodes :
    (Schema.ofJson nodeListJson).IsSingle ∧ (∀ d ∈ nodes, d.source.schema.IsSingle) ∧
      ((Schema.ofJson nodeListJson).sample (nodes.map sampled)).HasType (Means nodes)
        (.array (.named "Node")) ∧
      (Schema.ofJson nodeListJson).sample (nodes.map sampled) ≠ .null := by
  have areSingle : ∀ d ∈ nodes, d.source.schema.IsSingle :=
    List.forall_mem_singleton.mpr isSingle_nodeJson
  obtain ⟨typed, notNull⟩ := hasType_sample isSingle_nodeListJson areSingle
  have isName : Naming.referenceName? "#/definitions/Node" = some "Node" := by decide +kernel
  refine ⟨isSingle_nodeListJson, areSingle, ?_, notNull ?_⟩
  · rw [TypeResolver.resolve, ofJson_nodeListJson, TypeResolver.typeOf, TypeResolver.typeOfKind,
      TypeResolver.typeOf, typeOfKind_reference isName List.mem_cons_self] at typed
    rwa [ofJson_nodeListJson]
  · rw [ofJson_nodeListJson]
    rfl

end Compile

end TypedClient
