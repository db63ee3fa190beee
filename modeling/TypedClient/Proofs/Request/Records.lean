/-
# Records of request functions

The records that a request function is written with have no field twice: those of its schemas
because these declare no property twice, its first argument because of several parameters with one
name only the first is kept, and its second argument because each placeholder counts once.
-/

import Mathlib.Data.List.Nodup
import TypedClient.Proofs.Document.Schemas
import TypedClient.Proofs.Naming.Repeat
import TypedClient.Proofs.Request.Forwarding
import TypedClient.Proofs.Request.Imports
import TypedClient.Proofs.Types.Nonempty

namespace TypedClient

/-! ## Types of schemas -/

namespace TypeExpr

/-- A record has no field twice. -/
def HasDistinctFields : TypeExpr → Prop
  | record fields => (fields.map (·.name)).Nodup
  | _ => True

/-- A type in which no record has a field twice. -/
def IsDistinct : TypeExpr → Prop := Every HasDistinctFields

theorem isDistinct_of_parts_eq_nil {type : TypeExpr} (noParts : type.parts = [])
    (self : type.HasDistinctFields) : type.IsDistinct :=
  (every_iff_of_parts_eq_nil noParts).mpr self

theorem isDistinct_any : any.IsDistinct := isDistinct_of_parts_eq_nil rfl trivial

theorem isDistinct_record {fields : List TypeField} (distinct : (fields.map (·.name)).Nodup)
    (each : ∀ field ∈ fields, field.type.IsDistinct) : (record fields).IsDistinct :=
  .mk distinct (List.forall_mem_map.mpr each)

end TypeExpr

namespace TypeResolver

variable {resolver : TypeResolver}

theorem names_fieldsOf (properties : List SchemaProperty) :
    (resolver.fieldsOf properties).map (·.name) = properties.map (·.name) := by
  induction properties with
  | nil => rfl
  | cons property rest ih =>
      cases property with
      | mk name schema required => exact congrArg (name :: ·) ih

/-- A composition has records only inside its members. -/
theorem isDistinct_composition {compose : List TypeExpr → TypeExpr} {members : List TypeExpr}
    (composed : (compose members).parts = members) (self : (compose members).HasDistinctFields)
    (each : ∀ member ∈ members, member.IsDistinct) :
    (composition compose members).IsDistinct := by
  match members with
  | [] => exact TypeExpr.isDistinct_any
  | [member] => exact each member List.mem_cons_self
  | first :: second :: rest =>
      have several : (compose (first :: second :: rest)).IsDistinct := .mk self (by rwa [composed])
      exact several

mutual

/-- The type of a schema that declares no property twice has no field twice. -/
theorem isDistinct_typeOf : (schema : Schema) → schema.IsDistinct →
    (resolver.typeOf schema).IsDistinct
  | .mk kind _ _, .mk self parts => by
    rw [typeOf]
    exact isDistinct_typeOfKind kind self parts

theorem isDistinct_typeOfKind : (kind : SchemaKind) → kind.HasDistinctNames →
    (∀ part ∈ kind.parts, part.IsDistinct) → (resolver.typeOfKind kind).IsDistinct
  | .reference pointer, _, _ => by
    rw [typeOfKind]
    split <;> exact TypeExpr.isDistinct_of_parts_eq_nil rfl trivial
  | .array (some items), _, parts => by
    rw [typeOfKind]
    have item := isDistinct_typeOf items (parts items List.mem_cons_self)
    exact .mk trivial (List.forall_mem_singleton.mpr item)
  | .array none, _, _ => by
    rw [typeOfKind]
    exact .mk trivial (List.forall_mem_singleton.mpr TypeExpr.isDistinct_any)
  | .object [] (some value), _, parts => by
    rw [typeOfKind]
    have further := isDistinct_typeOf value (parts value List.mem_cons_self)
    exact .mk trivial (List.forall_mem_singleton.mpr further)
  | .object (first :: rest) further?, distinct, parts => by
    rw [typeOfKind]
    show (TypeExpr.record (resolver.fieldsOf (first :: rest))).IsDistinct
    refine TypeExpr.isDistinct_record ?_ ?_
    · rw [names_fieldsOf]
      exact distinct
    · exact isDistinct_fieldsOf (first :: rest) fun part isPart =>
        parts part (List.mem_append_left _ isPart)
  | .allOf members, _, parts => by
    rw [typeOfKind]
    exact isDistinct_composition rfl trivial (isDistinct_typesOf members parts)
  | .oneOf members, _, parts => by
    rw [typeOfKind]
    exact isDistinct_composition rfl trivial (isDistinct_typesOf members parts)
  | .primitive tag, _, _ => by
    rw [typeOfKind]
    split <;> exact TypeExpr.isDistinct_of_parts_eq_nil rfl trivial
  | .untyped, _, _ | .object [] none, _, _ | .literals _, _, _ | .tags _, _, _ => by
    rw [typeOfKind]
    exact TypeExpr.isDistinct_of_parts_eq_nil rfl trivial

theorem isDistinct_typesOf : (schemas : List Schema) → (∀ schema ∈ schemas, schema.IsDistinct) →
    ∀ type ∈ resolver.typesOf schemas, type.IsDistinct
  | [], _ => List.forall_mem_nil _
  | schema :: rest, each => by
    rw [typesOf, List.forall_mem_cons]
    obtain ⟨first, others⟩ := List.forall_mem_cons.mp each
    exact ⟨isDistinct_typeOf schema first, isDistinct_typesOf rest others⟩

theorem isDistinct_fieldsOf : (properties : List SchemaProperty) →
    (∀ part ∈ properties.map (·.schema), part.IsDistinct) →
    ∀ field ∈ resolver.fieldsOf properties, field.type.IsDistinct
  | [], _ => List.forall_mem_nil _
  | .mk name schema required :: rest, each => by
    rw [fieldsOf, List.forall_mem_cons]
    obtain ⟨first, others⟩ := List.forall_mem_cons.mp each
    exact ⟨isDistinct_typeOf schema first, isDistinct_fieldsOf rest others⟩

end

end TypeResolver

/-! ## Names of fields -/

namespace UrlTemplate

/-- Each placeholder counts once. -/
theorem nodup_names (url : UrlTemplate) : url.names.Nodup := Naming.nodup_eraseDups _

end UrlTemplate

namespace RequestParameters

variable {resolver : TypeResolver} {operation : Operation}

theorem nodup_argumentKey_keepFirst (taken : List (String × Bool)) (parameters : List Parameter) :
    ((keepFirst taken parameters).map argumentKey).Nodup := by
  induction parameters generalizing taken with
  | nil => exact List.nodup_nil
  | cons p parameters ih =>
      by_cases isTaken : argumentKey p ∈ taken
      · rw [keepFirst_cons_of_mem isTaken]
        exact ih taken
      · rw [keepFirst_cons_of_notMem isTaken, List.map_cons, List.nodup_cons]
        refine ⟨fun isLater => ?_, ih _⟩
        obtain ⟨q, isKept, same⟩ := List.mem_map.mp isLater
        exact (exists_split_of_mem_keepFirst isKept).1 (same ▸ List.mem_cons_self)

/-- The parameters that are kept have different names within their arguments. -/
theorem nodup_argumentKey (resolver : TypeResolver) (operation : Operation) :
    (((keepFirst [] operation.parameters).map (resolved resolver)).map
      fun p => argumentKey p.parameter).Nodup := by
  rw [List.map_map]
  exact nodup_argumentKey_keepFirst [] operation.parameters

theorem nodup_channel (resolver : TypeResolver) (operation : Operation)
    (location : ParameterLocation) : ((channel resolver operation location).map
      fun p => argumentKey p.parameter).Nodup :=
  (nodup_argumentKey resolver operation).sublist (List.filter_sublist.map _)

/-- Parameters of different channels have different keys. -/
theorem argumentKey_ne {first second : ParameterLocation} (differ : first ≠ second)
    {p q : ResolvedParameter} (isFirst : p ∈ channel resolver operation first)
    (isSecond : q ∈ channel resolver operation second) :
    argumentKey p.parameter ≠ argumentKey q.parameter := by
  intro same
  obtain ⟨inKept, isSent⟩ := List.mem_filter.mp isFirst
  obtain ⟨inKept', isSent'⟩ := List.mem_filter.mp isSecond
  cases List.inj_on_of_nodup_map (nodup_argumentKey resolver operation) inKept inKept' same
  exact differ ((beq_iff_eq.mp isSent).symm.trans (beq_iff_eq.mp isSent'))

/-- The keys of parameters that are put together are distinct if none is among both. -/
theorem nodup_append {front back : List ResolvedParameter}
    (isFront : (front.map fun p => argumentKey p.parameter).Nodup)
    (isBack : (back.map fun p => argumentKey p.parameter).Nodup)
    (apart : ∀ p ∈ front, ∀ q ∈ back, argumentKey p.parameter ≠ argumentKey q.parameter) :
    ((front ++ back).map fun p => argumentKey p.parameter).Nodup := by
  rw [List.map_append, List.nodup_append]
  refine ⟨isFront, isBack, ?_⟩
  rintro _ inFront _ inBack
  obtain ⟨p, isMember, rfl⟩ := List.mem_map.mp inFront
  obtain ⟨q, isMember', rfl⟩ := List.mem_map.mp inBack
  exact apart p isMember q isMember'

theorem nodup_argumentKey_fieldParameters (resolver : TypeResolver) (operation : Operation) :
    ((ofOperation resolver operation).fieldParameters.map
      fun p => argumentKey p.parameter).Nodup := by
  have body : ((channel resolver operation .body).head?.toList.map
      fun p => argumentKey p.parameter).Nodup := by
    cases (channel resolver operation .body).head? with
    | none => exact List.nodup_nil
    | some p => exact List.nodup_singleton _
  have isBody {p : ResolvedParameter}
      (member : p ∈ (channel resolver operation .body).head?.toList) :
      p ∈ channel resolver operation .body :=
    List.mem_of_mem_head? (Option.mem_toList.mp member)
  refine nodup_append (nodup_append (nodup_append (nodup_channel resolver operation .query)
    (nodup_channel resolver operation .header) ?_) (nodup_channel resolver operation .form) ?_)
    body ?_
  · exact fun p inQuery q inHeaders => argumentKey_ne (by decide) inQuery inHeaders
  · intro p isGrouped q inForm
    rcases List.mem_append.mp isGrouped with inQuery | inHeaders
    · exact argumentKey_ne (by decide) inQuery inForm
    · exact argumentKey_ne (by decide) inHeaders inForm
  · intro p isGrouped q member
    have inBody := isBody member
    rcases List.mem_append.mp isGrouped with inFront | inForm
    · rcases List.mem_append.mp inFront with inQuery | inHeaders
      · exact argumentKey_ne (by decide) inQuery inBody
      · exact argumentKey_ne (by decide) inHeaders inBody
    · exact argumentKey_ne (by decide) inForm inBody

/-- The fields of the first argument come from channels outside the path. -/
theorem exists_channel_of_mem_fieldParameters {p : ResolvedParameter}
    (member : p ∈ (ofOperation resolver operation).fieldParameters) :
    ∃ location, location ≠ .path ∧ p ∈ channel resolver operation location := by
  rcases mem_fieldParameters.mp member with inQuery | inHeaders | inForm | isBody
  · exact ⟨.query, by decide, inQuery⟩
  · exact ⟨.header, by decide, inHeaders⟩
  · exact ⟨.form, by decide, inForm⟩
  · exact ⟨.body, by decide, List.mem_of_mem_head? isBody⟩

/-- The fields of the first argument have different names. -/
theorem nodup_names_fieldParameters (resolver : TypeResolver) (operation : Operation) :
    ((ofOperation resolver operation).fieldParameters.map fun p => p.field.name).Nodup := by
  have distinct := nodup_argumentKey_fieldParameters resolver operation
  have keys : (ofOperation resolver operation).fieldParameters.map
        (fun p => argumentKey p.parameter) =
      ((ofOperation resolver operation).fieldParameters.map fun p => p.field.name).map
        (·, false) := by
    rw [List.map_map, List.map_inj_left]
    intro p member
    obtain ⟨location, outside, inChannel⟩ := exists_channel_of_mem_fieldParameters member
    have isSent := (exists_of_mem_channel outside inChannel).1
    simp [argumentKey, isSent, outside, ResolvedParameter.field, TypeField.name]
  rw [keys] at distinct
  exact List.Nodup.of_map _ distinct

/-! ## Types of arguments -/

/-- The type of a parameter is that of a schema of the operation. -/
theorem isDistinct_of_mem_channel (distinct : operation.IsDistinct) {p : ResolvedParameter}
    {location : ParameterLocation} (member : p ∈ channel resolver operation location) :
    p.resolved.type.IsDistinct := by
  obtain ⟨inKept, -⟩ := List.mem_filter.mp member
  obtain ⟨parameter, isKept, rfl⟩ := List.mem_map.mp inKept
  obtain ⟨-, before, after, parts, -⟩ := exists_split_of_mem_keepFirst isKept
  have isParameter : parameter ∈ operation.parameters :=
    parts ▸ List.mem_append_right before List.mem_cons_self
  exact TypeResolver.isDistinct_typeOf parameter.schema (distinct.parameters parameter isParameter)

theorem isDistinct_of_mem_fieldParameters (distinct : operation.IsDistinct)
    {p : ResolvedParameter} (member : p ∈ (ofOperation resolver operation).fieldParameters) :
    p.resolved.type.IsDistinct := by
  obtain ⟨location, -, inChannel⟩ := exists_channel_of_mem_fieldParameters member
  exact isDistinct_of_mem_channel distinct inChannel

theorem isDistinct_firstArgument? (distinct : operation.IsDistinct) :
    ∀ first ∈ (ofOperation resolver operation).firstArgument?, first.type.IsDistinct := by
  intro first isFirst
  unfold firstArgument? at isFirst
  split at isFirst
  · rename_i body isWhole
    cases isFirst
    exact isDistinct_of_mem_fieldParameters distinct (mem_fieldParameters_of_wholeBody? isWhole)
  · split at isFirst
    · cases isFirst
    · cases isFirst
      refine TypeExpr.isDistinct_record ?_ (List.forall_mem_map.mpr fun p member => ?_)
      · rw [List.map_map]
        exact nodup_names_fieldParameters resolver operation
      · exact isDistinct_of_mem_fieldParameters distinct member

theorem name_placeholderField (parameters : RequestParameters) (name : String) :
    (parameters.placeholderField name).name = name := by
  unfold placeholderField
  split <;> rfl

theorem names_map_placeholderField (parameters : RequestParameters) (names : List String) :
    (names.map parameters.placeholderField).map (·.name) = names := by
  rw [List.map_map]
  exact (List.map_congr_left fun name _ => name_placeholderField parameters name).trans
    (List.map_id names)

theorem isDistinct_pathType? (distinct : operation.IsDistinct) (url : UrlTemplate) :
    ∀ type ∈ (ofOperation resolver operation).pathType? url, type.IsDistinct := by
  intro type isType
  unfold pathType? at isType
  split at isType
  · cases isType
  · cases isType
    refine TypeExpr.isDistinct_record ?_ (List.forall_mem_map.mpr fun name _ => ?_)
    · rw [names_map_placeholderField]
      exact UrlTemplate.nodup_names url
    · unfold placeholderField
      split
      · rename_i p found
        exact isDistinct_of_mem_channel distinct (List.mem_of_find?_eq_some found)
      · exact TypeExpr.isDistinct_any

end RequestParameters

/-! ## Functions -/

/-- The types that the function of an operation is written with have no field twice, if no schema
of the operation declares a property twice. -/
theorem Operation.isDistinct_of_mem_writtenTypes {operation : Operation}
    (distinct : operation.IsDistinct) (resolver : TypeResolver) :
    ∀ type ∈ operation.writtenTypes resolver, type.IsDistinct := by
  intro type written
  rw [writtenTypes, List.mem_append, List.mem_append, List.mem_singleton] at written
  rcases written with (ofFirst | isPath) | rfl
  · obtain ⟨first, isFirst, rfl⟩ := Option.map_eq_some_iff.mp (Option.mem_toList.mp ofFirst)
    exact RequestParameters.isDistinct_firstArgument? distinct first isFirst
  · exact RequestParameters.isDistinct_pathType? distinct operation.url type
      (Option.mem_toList.mp isPath)
  · unfold resolvedResponse
    cases response : operation.response? with
    | none => exact TypeExpr.isDistinct_any
    | some schema =>
        exact TypeResolver.isDistinct_typeOf schema (distinct.response schema response)

end TypedClient
