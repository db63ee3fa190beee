/-
# Imports of resolved types

The names a type refers to are collected in sets, by unions along the schema. Every one
of them is the target of a reference, hence the name of a definition.
-/

import TypedClient.Types.Resolve

namespace TypedClient

namespace NameSet

/-! ## Unions -/

theorem notMem_empty (name : String) : name ∉ (∅ : NameSet) :=
  List.not_mem_nil

theorem mem_foldl_insert {names : List String} {start : NameSet} {name : String} :
    name ∈ names.foldl insert start ↔ name ∈ start ∨ name ∈ names := by
  induction names generalizing start with
  | nil => simp
  | cons first rest ih =>
      rw [List.foldl_cons, ih, mem_insert, List.mem_cons, or_assoc, or_left_comm]

theorem mem_ofList {names : List String} {name : String} : name ∈ ofList names ↔ name ∈ names := by
  rw [ofList, mem_foldl_insert]
  exact or_iff_right (notMem_empty name)

/-- A set lists each of its names once. -/
theorem nodup_toList (names : NameSet) : names.toList.Nodup := by
  refine List.Pairwise.imp ?_ names.sorted
  rintro name _ below rfl
  exact Std.lt_irrefl below

/-- Sets with the same names are the same. -/
theorem eq_of_mem_iff {a b : NameSet} (same : ∀ name, name ∈ a ↔ name ∈ b) : a = b := by
  have perm : a.toList.Perm b.toList :=
    (List.perm_ext_iff_of_nodup a.nodup_toList b.nodup_toList).mpr same
  have asymmetric : ∀ x y : String, x ∈ a.toList → y ∈ b.toList → x < y → y < x → x = y :=
    fun _ _ _ _ below above => absurd (Std.lt_trans below above) Std.lt_irrefl
  have lists : a.toList = b.toList := perm.eq_of_pairwise asymmetric a.sorted b.sorted
  cases a
  cases b
  cases lists
  rfl

theorem mem_union {a b : NameSet} {name : String} : name ∈ a.union b ↔ name ∈ a ∨ name ∈ b :=
  mem_foldl_insert

theorem mem_foldl_union {α : Type} {items : List α} {names : α → NameSet} {start : NameSet}
    {name : String} :
    name ∈ items.foldl (fun collected item => collected.union (names item)) start ↔
      name ∈ start ∨ ∃ item ∈ items, name ∈ names item := by
  induction items generalizing start with
  | nil => simp
  | cons first rest ih =>
      rw [List.foldl_cons, ih, mem_union, or_assoc]
      simp only [List.mem_cons, exists_eq_or_imp]

end NameSet

/-! ## Targets -/

namespace TypeResolver

variable {resolver : TypeResolver}

/-- A target is one of the declared definitions, if these are known. -/
theorem mem_of_target? {known : NameSet} (isKnown : resolver.known? = some known)
    {pointer name : String} (found : resolver.target? pointer = some name) : name ∈ known := by
  have counts : resolver.isKnown name = true := (Option.filter_eq_some_iff.mp found).2
  rw [TypeResolver.isKnown, isKnown] at counts
  exact of_decide_eq_true counts

mutual

/-- What holds of all targets of references holds of all imports. -/
theorem forall_mem_importsOf {P : String → Prop}
    (each : ∀ pointer name, resolver.target? pointer = some name → P name) :
    (schema : Schema) → ∀ name ∈ resolver.importsOf schema, P name
  | .mk kind _ _ => by
    rw [importsOf]
    exact forall_mem_importsOfKind each kind

theorem forall_mem_importsOfKind {P : String → Prop}
    (each : ∀ pointer name, resolver.target? pointer = some name → P name) :
    (kind : SchemaKind) → ∀ name ∈ resolver.importsOfKind kind, P name
  | .reference pointer => by
    intro name member
    rw [importsOfKind] at member
    split at member
    · rename_i target found
      rcases NameSet.mem_insert.mp member with rfl | inEmpty
      · exact each pointer name found
      · exact absurd inEmpty (NameSet.notMem_empty name)
    · exact absurd member (NameSet.notMem_empty name)
  | .array (some items) => by
    rw [importsOfKind]
    exact forall_mem_importsOf each items
  | .object [] (some value) => by
    rw [importsOfKind]
    exact forall_mem_importsOf each value
  | .object (first :: rest) _ => by
    intro name member
    rw [importsOfKind] at member
    rcases NameSet.mem_union.mp member with inFirst | inRest
    · exact forall_mem_importsOfProperty each first name inFirst
    · exact forall_mem_importsOfProperties each rest name inRest
  | .allOf members => by
    rw [importsOfKind]
    exact forall_mem_importsOfMembers each members
  | .oneOf members => by
    rw [importsOfKind]
    exact forall_mem_importsOfMembers each members
  | .untyped | .array none | .object [] none | .literals _ | .tags _ | .primitive _ => by
    intro name member
    rw [importsOfKind] at member
    exact absurd member (NameSet.notMem_empty name)

theorem forall_mem_importsOfMembers {P : String → Prop}
    (each : ∀ pointer name, resolver.target? pointer = some name → P name) :
    (schemas : List Schema) → ∀ name ∈ resolver.importsOfMembers schemas, P name
  | [] => fun name member => absurd member (NameSet.notMem_empty name)
  | schema :: rest => by
    intro name member
    rw [importsOfMembers] at member
    rcases NameSet.mem_union.mp member with inFirst | inRest
    · exact forall_mem_importsOf each schema name inFirst
    · exact forall_mem_importsOfMembers each rest name inRest

theorem forall_mem_importsOfProperty {P : String → Prop}
    (each : ∀ pointer name, resolver.target? pointer = some name → P name) :
    (property : SchemaProperty) → ∀ name ∈ resolver.importsOfProperty property, P name
  | .mk _ schema _ => by
    rw [importsOfProperty]
    exact forall_mem_importsOf each schema

theorem forall_mem_importsOfProperties {P : String → Prop}
    (each : ∀ pointer name, resolver.target? pointer = some name → P name) :
    (properties : List SchemaProperty) → ∀ name ∈ resolver.importsOfProperties properties, P name
  | [] => fun name member => absurd member (NameSet.notMem_empty name)
  | property :: rest => by
    intro name member
    rw [importsOfProperties] at member
    rcases NameSet.mem_union.mp member with inFirst | inRest
    · exact forall_mem_importsOfProperty each property name inFirst
    · exact forall_mem_importsOfProperties each rest name inRest

end

end TypeResolver

end TypedClient
