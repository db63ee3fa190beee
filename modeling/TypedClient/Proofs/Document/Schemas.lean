/-
# Schemas of operations

The schemas of an operation are read from parts of its document, also where a reference leads
there. As no object of the document has a key twice, none of them declares a property twice.
-/

import TypedClient.Document.Basic
import TypedClient.Proofs.Schema.Reader

namespace TypedClient

/-! ## Parts of values -/

namespace Json.HasDistinctKeys

variable {root value part : Json} {members : List (String × Json)} {key : String}

theorem of_mem_object (distinct : (Json.object members).HasDistinctKeys)
    {member : String × Json} (isMember : member ∈ members) : member.2.HasDistinctKeys := by
  cases distinct with
  | object _ each => exact each member isMember

theorem of_mem_array {items : List Json} (distinct : (Json.array items).HasDistinctKeys)
    (isItem : part ∈ items) : part.HasDistinctKeys := by
  cases distinct with
  | array each => exact each part isItem

theorem of_lookup (distinct : (Json.object members).HasDistinctKeys)
    (found : members.lookup key = some part) : part.HasDistinctKeys :=
  Schema.hasDistinctKeys_of_lookup distinct found

theorem of_get? (distinct : value.HasDistinctKeys) (found : value.get? key = some part) :
    part.HasDistinctKeys := by
  cases value with
  | object members => exact of_lookup distinct found
  | null | bool | number | string | array => cases found

theorem of_object? (distinct : value.HasDistinctKeys) (isObject : value.object? = some members) :
    (Json.object members).HasDistinctKeys := by
  cases value <;> cases isObject
  exact distinct

/-- An object under a key. -/
theorem of_get?_object? (distinct : value.HasDistinctKeys)
    (found : (value.get? key).bind Json.object? = some members) :
    (Json.object members).HasDistinctKeys := by
  obtain ⟨part, isPart, isObject⟩ := Option.bind_eq_some_iff.mp found
  exact of_object? (of_get? distinct isPart) isObject

theorem of_child? (distinct : value.HasDistinctKeys) (found : value.child? key = some part) :
    part.HasDistinctKeys := by
  cases value with
  | object members => exact of_lookup distinct found
  | array items =>
      obtain ⟨index, -, isItem⟩ := Option.bind_eq_some_iff.mp found
      exact of_mem_array distinct (List.mem_of_getElem? isItem)
  | null | bool | number | string => cases found

theorem of_foldlM_child? {keys : List (List Char)} (distinct : value.HasDistinctKeys)
    (found : keys.foldlM (fun here key => child? (String.ofList (unescapeKey key)) here) value =
      some part) : part.HasDistinctKeys := by
  induction keys generalizing value with
  | nil =>
      cases found
      exact distinct
  | cons key keys ih =>
      rw [List.foldlM_cons] at found
      obtain ⟨child, isChild, found⟩ := Option.bind_eq_some_iff.mp found
      exact ih (of_child? distinct isChild) found

/-- A pointer leads from part to part. -/
theorem of_pointer? (distinct : value.HasDistinctKeys) {pointer : String}
    (found : value.pointer? pointer = some part) : part.HasDistinctKeys := by
  unfold Json.pointer? at found
  split at found
  · cases found
    exact distinct
  · exact of_foldlM_child? distinct found
  · cases found

/-- What a value refers to is a part of the document, or the value itself. -/
theorem dereference (isRoot : root.HasDistinctKeys) (distinct : value.HasDistinctKeys)
    (hops : Nat) : (root.dereference hops value).HasDistinctKeys := by
  induction hops generalizing value with
  | zero => exact distinct
  | succ hops ih =>
      unfold Json.dereference
      split
      · exact distinct
      · split
        · exact distinct
        · rename_i target found
          exact ih (of_pointer? isRoot found)

end Json.HasDistinctKeys

/-! ## Reading operations -/

theorem Schema.Every.of_mem_parts {P : SchemaKind → Prop} {schema part : Schema}
    (every : schema.Every P) (isPart : part ∈ schema.kind.parts) : part.Every P := by
  cases every with
  | mk self parts => exact parts part isPart

/-- A schema that declares no property twice, at any depth. -/
def Schema.IsDistinct (schema : Schema) : Prop := schema.Every SchemaKind.HasDistinctNames

theorem Schema.isDistinct_ofJson {value : Json} (distinct : value.HasDistinctKeys) :
    (ofJson value).IsDistinct :=
  every_hasDistinctNames_ofJson value distinct

namespace Document.Reader

open Json.HasDistinctKeys

variable {root raw body : Json} {p : Parameter} {members : List (String × Json)}

theorem hasDistinctKeys_resolve (isRoot : root.HasDistinctKeys) (distinct : raw.HasDistinctKeys) :
    (resolve root raw).HasDistinctKeys :=
  dereference isRoot distinct hopLimit

theorem hasDistinctKeys_of_mem_items (distinct : raw.HasDistinctKeys) {key : String} :
    ∀ item ∈ items raw key, item.HasDistinctKeys := by
  intro item isItem
  unfold items at isItem
  cases found : (raw.get? key).bind Json.array? with
  | none =>
      rw [found] at isItem
      cases isItem
  | some values =>
      rw [found] at isItem
      obtain ⟨part, isPart, isArray⟩ := Option.bind_eq_some_iff.mp found
      have array := of_get? distinct isPart
      cases part <;> cases isArray
      exact of_mem_array array isItem

/-- A declared parameter has the schema of its declaration. -/
theorem isDistinct_of_parameter? (distinct : raw.HasDistinctKeys)
    (read : parameter? raw = some p) : p.schema.IsDistinct := by
  obtain ⟨name, -, read⟩ := Option.bind_eq_some_iff.mp read
  obtain ⟨location, -, read⟩ := Option.bind_eq_some_iff.mp read
  split at read
  · cases read
  · cases read
    refine Schema.isDistinct_ofJson ?_
    cases found : raw.get? "schema" with
    | none => exact distinct
    | some schema => exact of_get? distinct found

theorem mem_of_mem_setParameter {q : Parameter} {parameters : List Parameter}
    (member : p ∈ setParameter q parameters) : p = q ∨ p ∈ parameters := by
  fun_induction setParameter q parameters with
  | case1 => exact Or.inl (List.mem_singleton.mp member)
  | case2 first rest same =>
      rcases List.mem_cons.mp member with isNew | inRest
      · exact Or.inl isNew
      · exact Or.inr (List.mem_cons_of_mem first inRest)
  | case3 first rest differs ih =>
      rcases List.mem_cons.mp member with rfl | inRest
      · exact Or.inr List.mem_cons_self
      · exact (ih inRest).imp_right (List.mem_cons_of_mem first)

/-- What is set one after the other is all that there is. -/
theorem mem_of_mem_foldl_setParameter {declared set : List Parameter}
    (member : p ∈ declared.foldl (fun parameters q => setParameter q parameters) set) :
    p ∈ set ∨ p ∈ declared := by
  induction declared generalizing set with
  | nil => exact Or.inl member
  | cons q declared ih =>
      rcases ih member with inSet | inDeclared
      · rcases mem_of_mem_setParameter inSet with rfl | inSet
        · exact Or.inr List.mem_cons_self
        · exact Or.inl inSet
      · exact Or.inr (List.mem_cons_of_mem q inDeclared)

theorem isDistinct_of_mem_declaredParameters (isRoot : root.HasDistinctKeys)
    {shared own : List Json} (distinct : ∀ raw ∈ shared ++ own, raw.HasDistinctKeys)
    (member : p ∈ declaredParameters root shared own) : p.schema.IsDistinct := by
  rcases mem_of_mem_foldl_setParameter member with inEmpty | isDeclared
  · cases inEmpty
  · obtain ⟨raw, isRaw, read⟩ := List.mem_filterMap.mp isDeclared
    exact isDistinct_of_parameter? (hasDistinctKeys_resolve isRoot (distinct raw isRaw)) read

/-- The fields of a form have the schemas of its properties. -/
theorem isDistinct_of_mem_formParameters (isRoot : root.HasDistinctKeys)
    (distinct : (Json.object members).HasDistinctKeys)
    (member : p ∈ formParameters root members) : p.schema.IsDistinct := by
  unfold formParameters at member
  split at member
  · cases member
  · rename_i schema found
    obtain ⟨media, isMedia, isSchema⟩ := Option.bind_eq_some_iff.mp found
    have isDistinct : (Schema.ofJson (resolve root schema)).IsDistinct := by
      refine Schema.isDistinct_ofJson (hasDistinctKeys_resolve isRoot ?_)
      exact of_get? (of_mem_object distinct (List.mem_of_find?_eq_some isMedia)) isSchema
    split at member
    · rename_i properties further isObject
      obtain ⟨property, isProperty, rfl⟩ := List.mem_map.mp member
      have isPart : property.schema ∈ (Schema.ofJson (resolve root schema)).kind.parts := by
        rw [isObject]
        exact List.mem_append_left _ (List.mem_map_of_mem isProperty)
      cases property with
      | mk name schema required => exact isDistinct.of_mem_parts isPart
    · cases member

theorem exists_of_chooseMedia? {media : Json} (chosen : chooseMedia? members = some media) :
    ∃ member ∈ members, member.2 = media := by
  have ofLookup {key : String} (found : members.lookup key = some media) :
      ∃ member ∈ members, member.2 = media := by
    obtain ⟨before, after, rfl, -⟩ := List.lookup_eq_some_iff.mp found
    exact ⟨(key, media), List.mem_append_right _ List.mem_cons_self, rfl⟩
  simp only [chooseMedia?, Option.orElse_eq_orElse, Option.orElse_eq_or, Option.or_eq_some_iff,
    Option.map_eq_some_iff] at chosen
  rcases chosen with found | ⟨-, ⟨member, found, isMedia⟩ | ⟨-, found | ⟨-, other⟩⟩⟩
  · exact ofLookup found
  · exact ⟨member, List.mem_of_find?_eq_some found, isMedia⟩
  · exact ofLookup found
  · obtain ⟨member, found, isMedia⟩ := other
    exact ⟨member, List.mem_of_mem_head? found, isMedia⟩

/-- The schema of the media object that counts. -/
theorem isDistinct_of_chooseMedia? (distinct : (Json.object members).HasDistinctKeys)
    {schema : Json} (chosen : (chooseMedia? members).bind (·.get? "schema") = some schema) :
    (Schema.ofJson schema).IsDistinct := by
  obtain ⟨media, isMedia, isSchema⟩ := Option.bind_eq_some_iff.mp chosen
  obtain ⟨member, isMember, rfl⟩ := exists_of_chooseMedia? isMedia
  exact Schema.isDistinct_ofJson (of_get? (of_mem_object distinct isMember) isSchema)

/-- A request body has a schema, or its form fields have. -/
theorem isDistinct_of_mem_bodyParameters (isRoot : root.HasDistinctKeys)
    (distinct : body.HasDistinctKeys) (member : p ∈ bodyParameters root body) :
    p.schema.IsDistinct := by
  unfold bodyParameters at member
  split at member
  · cases member
  · rename_i content isContent
    have content := of_get?_object? distinct isContent
    split at member
    · split at member
      · cases member
      · rename_i schema chosen
        cases List.mem_singleton.mp member
        exact isDistinct_of_chooseMedia? content chosen
    · exact isDistinct_of_mem_formParameters isRoot content member

theorem leastKey?_mem {least : String × Json} (found : leastKey? members = some least) :
    least ∈ members := by
  induction members generalizing least with
  | nil => cases found
  | cons first rest ih =>
      rw [leastKey?] at found
      cases least' : leastKey? rest with
      | none =>
          rw [least'] at found
          cases found
          exact List.mem_cons_self
      | some other =>
          rw [least'] at found
          simp only at found
          split at found
          · cases found
            exact List.mem_cons_of_mem first (ih least')
          · cases found
            exact List.mem_cons_self

/-- The answer that counts has a schema of its own or that of its media object. -/
theorem isDistinct_of_responseSchema? (isRoot : root.HasDistinctKeys)
    (distinct : (Json.object members).HasDistinctKeys) {schema : Schema}
    (read : responseSchema? root members = some schema) : schema.IsDistinct := by
  obtain ⟨chosen, isChosen, read⟩ := Option.bind_eq_some_iff.mp read
  have isPart : chosen.HasDistinctKeys := by
    simp only [successResponse?, Option.orElse_eq_orElse, Option.orElse_eq_or,
      Option.or_eq_some_iff, Option.map_eq_some_iff] at isChosen
    rcases isChosen with ⟨least, isLeast, rfl⟩ | ⟨-, isDefault⟩
    · exact of_mem_object distinct (List.mem_filter.mp (leastKey?_mem isLeast)).1
    · exact of_lookup distinct isDefault
  have resolved := hasDistinctKeys_resolve isRoot isPart
  simp only at read
  split at read
  · rename_i own isOwn
    cases read
    exact Schema.isDistinct_ofJson (of_get? resolved isOwn)
  · obtain ⟨content, isContent, read⟩ := Option.bind_eq_some_iff.mp read
    obtain ⟨media, isMedia, read⟩ := Option.bind_eq_some_iff.mp read
    obtain ⟨own, isOwn, read⟩ := Option.bind_eq_some_iff.mp read
    cases read
    refine isDistinct_of_chooseMedia? (of_get?_object? resolved isContent) ?_
    exact Option.bind_eq_some_iff.mpr ⟨media, isMedia, isOwn⟩

end Document.Reader

/-! ## Operations -/

/-- An operation whose schemas declare no property twice. -/
structure Operation.IsDistinct (operation : Operation) : Prop where
  parameters : ∀ p ∈ operation.parameters, p.schema.IsDistinct
  response : ∀ schema ∈ operation.response?, schema.IsDistinct

namespace Document

open Json.HasDistinctKeys

variable {root item raw : Json}

theorem Reader.isDistinct_operation (isRoot : root.HasDistinctKeys) {shared : List Json}
    (areShared : ∀ raw ∈ shared, raw.HasDistinctKeys) (distinct : raw.HasDistinctKeys)
    (path : String) (method : HttpMethod) : (operation root path shared method raw).IsDistinct where
  parameters := by
    intro p member
    rcases List.mem_append.mp member with isDeclared | inBody
    · refine isDistinct_of_mem_declaredParameters isRoot ?_ isDeclared
      exact List.forall_mem_append.mpr ⟨areShared, hasDistinctKeys_of_mem_items distinct⟩
    · cases isGiven : raw.get? "requestBody" with
      | none =>
          rw [isGiven] at inBody
          cases inBody
      | some body =>
          rw [isGiven] at inBody
          exact isDistinct_of_mem_bodyParameters isRoot
            (hasDistinctKeys_resolve isRoot (of_get? distinct isGiven)) inBody
  response := by
    intro schema isResponse
    obtain ⟨responses, areResponses, read⟩ := Option.bind_eq_some_iff.mp isResponse
    exact isDistinct_of_responseSchema? isRoot (of_get?_object? distinct areResponses) read

/-- An operation is read from a member of the paths. -/
theorem exists_item_of_mem_operations {document : Document}
    (read : Document.ofJson? root = some document) {operation : Operation}
    (member : operation ∈ document.operations) :
    ∃ paths path item, (root.get? "paths").bind Json.object? = some paths ∧
      (path, item) ∈ paths ∧ operation ∈ Reader.pathOperations root path item := by
  obtain ⟨members, isObject, whole⟩ := Option.bind_eq_some_iff.mp read
  cases Option.some.inj whole
  obtain ⟨⟨path, item⟩, isItem, inPath⟩ := List.mem_flatMap.mp member
  cases root <;> cases isObject
  cases found : (members.lookup "paths").bind Json.object? with
  | none =>
      rw [found] at isItem
      cases isItem
  | some paths =>
      rw [found] at isItem
      exact ⟨paths, path, item, found, isItem, inPath⟩

/-- No operation of a document has a schema that declares a property twice. -/
theorem isDistinct_of_mem_operations (isRoot : root.HasDistinctKeys) {document : Document}
    (read : Document.ofJson? root = some document) :
    ∀ operation ∈ document.operations, operation.IsDistinct := by
  intro operation member
  obtain ⟨paths, path, item, arePaths, isItem, inPath⟩ := exists_item_of_mem_operations read member
  have resolved := Reader.hasDistinctKeys_resolve isRoot
    (of_mem_object (of_get?_object? isRoot arePaths) isItem)
  obtain ⟨method, -, isRead⟩ := List.mem_filterMap.mp inPath
  obtain ⟨raw, isRaw, rfl⟩ := Option.map_eq_some_iff.mp isRead
  have isMember := (Option.filter_eq_some_iff.mp isRaw).1
  exact Reader.isDistinct_operation isRoot (Reader.hasDistinctKeys_of_mem_items resolved)
    (of_get? resolved isMember) path method

end Document

end TypedClient
