/-
# Written types are read as the types that were resolved

Parentheses are put around a member of several members only, and array brackets,
intersections and unions each reach over a part of the text of their own. The
reference grammar decides whether that is enough: a rendered type is read back whole,
and as the tree of the expression it was rendered from.
-/

import TypedClient.Proofs.Script.TypeLexing
import TypedClient.Proofs.Types.Resolved

namespace TypedClient.TypeExpr

open Script

/-! ## The tree of a type -/

mutual

/-- What the text of a type means to the grammar: scalars and definitions are names,
a map is a record over strings, and several literals are the union of each. -/
def tree : TypeExpr → TypeTree
  | any => .name "any"
  | object => .name "object"
  | primitive type => .name type.name
  | named name => .name name
  | raw text => .name text
  | array item => .array item.tree
  | record fields => .object (treesOfFields fields)
  | map value => .generic "Record" [.name "string", value.tree]
  | literals values => sideBySide .union (values.map .literal)
  | union members => .union (treesOf members)
  | intersection members => .intersection (treesOf members)

/-- The trees of several types. -/
def treesOf : List TypeExpr → List TypeTree
  | [] => []
  | type :: rest => type.tree :: treesOf rest

/-- The tree of a field. -/
def treeOfField : TypeField → TypeTreeField
  | .mk name type optional _ => .mk name optional type.tree

/-- The trees of several fields. -/
def treesOfFields : List TypeField → List TypeTreeField
  | [] => []
  | field :: rest => treeOfField field :: treesOfFields rest

end

theorem treesOf_eq_map (types : List TypeExpr) : treesOf types = types.map tree := by
  induction types with
  | nil => rfl
  | cons type rest ih => rw [treesOf, ih, List.map_cons]

theorem treesOfFields_eq_map (fields : List TypeField) :
    treesOfFields fields = fields.map treeOfField := by
  induction fields with
  | nil => rfl
  | cons field rest ih => rw [treesOfFields, ih, List.map_cons]

theorem type_treeOfField (field : TypeField) : (treeOfField field).type = field.type.tree := by
  obtain ⟨name, type, optional, description?⟩ := field
  rw [treeOfField]
  rfl

theorem renderMembers_eq_map (language : Language) (types : List TypeExpr) :
    renderMembers language types = types.map (render language) := by
  induction types with
  | nil => rfl
  | cons type rest ih => rw [renderMembers, ih, List.map_cons]

theorem renderFields_eq_map (language : Language) (fields : List TypeField) :
    renderFields language fields = fields.map (renderField language) := by
  induction fields with
  | nil => rfl
  | cons field rest ih => rw [renderFields, ih, List.map_cons]

/-! ## Trees of resolved types -/

/-- The members of a choice of several literals. -/
theorem tree_literals_of_length {values : List String} (several : 2 ≤ values.length) :
    (literals values).tree = .union (values.map .literal) := by
  rw [tree, sideBySide_of_length (by rwa [List.length_map])]

/-- The tree of a resolved type is one the grammar can give. -/
theorem IsResolved.isProper_tree {type : TypeExpr} (resolved : type.IsResolved True) :
    type.tree.IsProper := by
  induction resolved with
  | any => exact .name "any"
  | object => exact .name "object"
  | primitive type => exact .name type.name
  | @named name isName => exact .name name
  | array resolved ih => exact .array ih
  | record nonempty resolved ih =>
      rw [tree, treesOfFields_eq_map]
      refine .object fun field member => ?_
      obtain ⟨source, isSource, rfl⟩ := List.mem_map.mp member
      rw [type_treeOfField]
      exact ih source isSource
  | map resolved ih =>
      rw [tree]
      exact .generic "Record" (List.cons_ne_nil _ _)
        (List.forall_mem_cons.mpr ⟨.name "string", List.forall_mem_singleton.mpr ih⟩)
  | @literals values nonempty =>
      match values with
      | [] => exact absurd rfl (nonempty trivial)
      | [value] => exact .literal value
      | first :: second :: rest =>
          have several : 2 ≤ (first :: second :: rest).length := Nat.le_add_left 2 rest.length
          rw [tree_literals_of_length several]
          refine .union (by rwa [List.length_map]) fun member isMember => ?_
          obtain ⟨value, -, rfl⟩ := List.mem_map.mp isMember
          exact .literal value
  | union several resolved ih =>
      rw [tree, treesOf_eq_map]
      refine .union (by rwa [List.length_map]) fun member isMember => ?_
      obtain ⟨source, isSource, rfl⟩ := List.mem_map.mp isMember
      exact ih source isSource
  | intersection several resolved ih =>
      rw [tree, treesOf_eq_map]
      refine .intersection (by rwa [List.length_map]) fun member isMember => ?_
      obtain ⟨source, isSource, rfl⟩ := List.mem_map.mp isMember
      exact ih source isSource
  | tags loose => exact absurd trivial loose

/-- Rendering and reading agree on which types are several members side by side. -/
theorem IsResolved.isComposite_tree {type : TypeExpr} (resolved : type.IsResolved True) :
    type.tree.isComposite = type.isComposite := by
  cases resolved with
  | @literals values nonempty =>
      match values with
      | [] => exact absurd rfl (nonempty trivial)
      | [value] => rfl
      | first :: second :: rest => rfl
  | union several resolved => exact (decide_eq_true several).symm
  | intersection several resolved => exact (decide_eq_true several).symm
  | tags loose => exact absurd trivial loose
  | _ => rw [tree]; rfl

/-! ## Tokens of a rendered type -/

theorem IsResolved.lexes_besideOthers {type : TypeExpr} (resolved : type.IsResolved True)
    (lexes : Lexes (type.render .typeScript).toList type.tree.tokens) :
    Lexes (besideOthers type (type.render .typeScript)).toList type.tree.memberTokens := by
  rw [besideOthers, TypeTree.memberTokens, TypeTree.grouped, resolved.isComposite_tree]
  split
  · rw [String.toList_append, String.toList_append, List.append_assoc]
    exact Lexes.cons_sign (by decide)
      (lexes.append (Lexes.sign (by decide)) (apart_cons (by decide) []))
  · exact lexes

/-- Texts between blanks and a sign. -/
theorem lexes_spaced {α : Type} {separator : String} {sign : Char} {text : α → String}
    {tokens : α → List TypeToken} {items : List α} (isSign : sign ∈ typeSigns)
    (shape : separator.toList = [' ', sign, ' '])
    (each : ∀ item ∈ items, Lexes (text item).toList (tokens item)) :
    Lexes (separator.intercalate (items.map text)).toList
      (separated sign (items.map tokens)) := by
  refine Lexes.separated (fun rest => ?_) (fun lexes => ?_) each
  · rw [shape]
    exact apart_cons (by decide) _
  · rw [shape]
    exact (lexes.cons_blank.cons_sign isSign).cons_blank

/-- Several members side by side. -/
theorem compose_of_length (language : Language) (separator : String) {members : List TypeExpr}
    (several : 2 ≤ members.length) :
    compose language separator members (members.map (render language)) =
      separator.intercalate (members.map fun member =>
        besideOthers member (member.render language)) := by
  have beside : List.zipWith besideOthers members (members.map (render language)) =
      members.map fun member => besideOthers member (member.render language) := by
    rw [List.zipWith_map_right, List.zipWith_self]
  rw [← beside]
  match members with
  | [] => exact absurd several (by decide)
  | [member] => exact absurd several (Nat.not_succ_le_self 1)
  | first :: second :: rest => rfl

/-- Several members are cut into the tokens of each. -/
theorem lexes_compose {separator : String} {sign : Char} {members : List TypeExpr}
    (isSign : sign ∈ typeSigns) (shape : separator.toList = [' ', sign, ' '])
    (several : 2 ≤ members.length) (resolved : ∀ member ∈ members, member.IsResolved True)
    (each : ∀ member ∈ members, Lexes (member.render .typeScript).toList member.tree.tokens) :
    Lexes (compose .typeScript separator members (members.map (render .typeScript))).toList
      (separated sign (members.map fun member => member.tree.memberTokens)) := by
  rw [compose_of_length .typeScript separator several]
  exact lexes_spaced isSign shape fun member isMember =>
    (resolved member isMember).lexes_besideOthers (each member isMember)

/-- A key is cut as the literal or the name it is written as. -/
theorem lexes_propertyKey (key : String) :
    Lexes (Naming.propertyKey key).toList
      [if Naming.needsQuotes key then .literal key else .name key] := by
  unfold Naming.propertyKey
  split
  · exact Lexes.literal key
  · rename_i plain
    exact Lexes.name (Naming.isName_of_needsQuotes_eq_false (by simpa using plain))

theorem lexes_renderField {field : TypeField}
    (lexes : Lexes (field.type.render .typeScript).toList field.type.tree.tokens) :
    Lexes (renderField .typeScript field).toList (treeOfField field).tokens := by
  obtain ⟨name, type, optional, description?⟩ := field
  have typed : Lexes (": ".toList ++ (type.render .typeScript).toList)
      (.sign ':' :: type.tree.tokens) := (Lexes.cons_blank lexes).cons_sign (by decide)
  rw [renderField, treeOfField, TypeTreeField.tokens]
  cases optional with
  | true =>
      have optionalType := typed.cons_sign (c := '?') (by decide)
      simpa using (lexes_propertyKey name).append optionalType (apart_cons (by decide) _)
  | false =>
      simpa using (lexes_propertyKey name).append typed (apart_cons (by decide) _)

theorem isName_primitive (type : PrimitiveType) : Naming.IsName type.name := by
  cases type <;> exact Naming.isName_of_all rfl rfl rfl

/-- A record is cut field by field. -/
theorem lexes_record {fields : List TypeField} (nonempty : fields ≠ [])
    (each : ∀ field ∈ fields,
      Lexes (field.type.render .typeScript).toList field.type.tree.tokens) :
    Lexes ((record fields).render .typeScript).toList (record fields).tree.tokens := by
  have inner : Lexes ("; ".intercalate (fields.map (renderField .typeScript))).toList
      (separated ';' (fields.map fun field => (treeOfField field).tokens)) := by
    refine Lexes.separated (fun rest => apart_cons (by decide) _) (fun lexes => ?_)
      fun field member => lexes_renderField (each field member)
    exact lexes.cons_blank.cons_sign (by decide)
  have text : recordText .typeScript (fields.map (renderField .typeScript)) =
      "\x7b " ++ "; ".intercalate (fields.map (renderField .typeScript)) ++ " \x7d" := by
    cases fields with
    | nil => exact absurd rfl nonempty
    | cons first rest => rfl
  have closing : Lexes " \x7d".toList [.sign '}'] := (Lexes.sign (by decide)).cons_blank
  rw [render, tree, TypeTree.tokens, renderFields_eq_map, treesOfFields_eq_map,
    tokensOfFields_eq_map, List.map_map, text, String.toList_append, String.toList_append,
    List.append_assoc]
  exact (inner.append closing (apart_cons (by decide) _)).cons_blank.cons_sign (by decide)

/-- A map is cut as a name with two arguments. -/
theorem lexes_map {value : TypeExpr}
    (lexes : Lexes (value.render .typeScript).toList value.tree.tokens) :
    Lexes ((map value).render .typeScript).toList (map value).tree.tokens := by
  have generic : Lexes "Record".toList [.name "Record"] :=
    Lexes.name (Naming.isName_of_all rfl rfl rfl)
  have key : Lexes "string".toList [.name "string"] := Lexes.name (isName_primitive .string)
  have closed : Lexes ((value.render .typeScript).toList ++ ['>'])
      (value.tree.tokens ++ [.sign '>']) :=
    lexes.append (Lexes.sign (by decide)) (apart_cons (by decide) _)
  have arguments := (key.append (closed.cons_blank.cons_sign (c := ',') (by decide))
    (apart_cons (by decide) _)).cons_sign (c := '<') (by decide)
  have whole := generic.append arguments (apart_cons (by decide) _)
  simpa [render, tree, TypeTree.tokens, tokensOfEach, separated] using whole

/-- A choice of literals is cut literal by literal. -/
theorem lexes_literals {values : List String} (nonempty : values ≠ []) :
    Lexes ((literals values).render .typeScript).toList (literals values).tree.tokens := by
  have each : Lexes (" | ".intercalate (values.map Naming.quoteLiteral)).toList
      (separated '|' (values.map fun value => [TypeToken.literal value])) :=
    lexes_spaced (by decide) rfl fun value _ => Lexes.literal value
  rw [render]
  match values with
  | [] => exact absurd rfl nonempty
  | [value] => simpa [separated, tree, sideBySide, TypeTree.tokens] using each
  | first :: second :: rest =>
      have several : 2 ≤ (first :: second :: rest).length := Nat.le_add_left 2 rest.length
      rw [tree_literals_of_length several, TypeTree.tokens,
        tokensOfMembers_eq_map, List.map_map]
      exact each

/-- A rendered type is cut into the tokens of its tree. -/
theorem IsResolved.lexes_render {type : TypeExpr} (resolved : type.IsResolved True) :
    Lexes (type.render .typeScript).toList type.tree.tokens := by
  induction resolved with
  | any => exact Lexes.name (Naming.isName_of_all rfl rfl rfl)
  | object => exact Lexes.name (Naming.isName_of_all rfl rfl rfl)
  | primitive type => exact Lexes.name (isName_primitive type)
  | @named name isName => exact Lexes.name isName
  | array resolved ih =>
      have grouped := resolved.lexes_besideOthers ih
      rw [render, tree, TypeTree.tokens, ← TypeTree.memberTokens, String.toList_append]
      exact grouped.append ((Lexes.sign (by decide)).cons_sign (by decide))
        (apart_cons (by decide) _)
  | record nonempty resolved ih => exact lexes_record nonempty ih
  | map resolved ih => exact lexes_map ih
  | literals nonempty => exact lexes_literals (nonempty trivial)
  | union several resolved ih =>
      rw [render, tree, TypeTree.tokens, renderMembers_eq_map, treesOf_eq_map,
        tokensOfMembers_eq_map, List.map_map]
      exact lexes_compose (by decide) rfl several resolved ih
  | intersection several resolved ih =>
      rw [render, tree, TypeTree.tokens, renderMembers_eq_map, treesOf_eq_map,
        tokensOfMembers_eq_map, List.map_map]
      exact lexes_compose (by decide) rfl several resolved ih
  | tags loose => exact absurd trivial loose

/-! ## Reading rendered types -/

theorem IsResolved.parseType_render {type : TypeExpr} (resolved : type.IsResolved True) :
    parseType (type.render .typeScript) = some type.tree := by
  have cut := resolved.lexes_render [] (fun c starts => by cases starts)
  rw [List.append_nil, tokensFrom, Option.map_some, List.append_nil] at cut
  have read : readType type.tree.tokens.length (type.tree.tokens ++ []) = some (type.tree, []) :=
    resolved.isProper_tree.reads.whole (Nat.le_refl _) fun token _ => by simp
  rw [List.append_nil] at read
  rw [parseType, cut]
  simp only [read]

end TypedClient.TypeExpr

namespace TypedClient.TypeResolver

/-- The rendered type of a plain schema is read back, to the end of the text, as the
type the schema resolved to. -/
theorem parseType_render_resolve {resolver : TypeResolver} (writes : resolver.WritesImports)
    {schema : Schema} (plain : schema.isPlain = true) :
    Script.parseType ((resolver.resolve schema).render .typeScript) =
      some (resolver.resolve schema).type.tree :=
  (isResolved_typeOf writes schema fun _ => plain).parseType_render

/-! ## A type with every kind of grouping -/

/-- A resolver that knows two definitions, one under an alias. -/
def sampleResolver : TypeResolver :=
  let declared := (NameSet.empty.insert "Pet").insert "Response"
  { known? := some declared, aliases := Naming.importAliases declared }

/-- An array of a choice whose members are compositions, with a key to quote. -/
def sampleSchema : Schema :=
  let reference (pointer : String) : Schema := .mk (.reference pointer) none none
  let values : Schema := .mk (.literals [.string "a\"b | c", .string "[]"]) none none
  let both : Schema := .mk (.allOf [reference "#/definitions/Pet", values]) none none
  let record : Schema := .mk (.object [.mk "x-y?" both false] none) none none
  let choice : Schema := .mk (.oneOf [reference "#/definitions/Response", both, record]) none none
  .mk (.array (some choice)) none none

theorem parseType_render_resolve_sample :
    sampleResolver.WritesImports ∧ sampleSchema.isPlain = true ∧
      (sampleResolver.resolve sampleSchema).render .typeScript =
        "(ApiResponse | (Pet & (\"a\\\"b | c\" | \"[]\")) | " ++
          "\x7b \"x-y?\"?: Pet & (\"a\\\"b | c\" | \"[]\") \x7d)[]" ∧
      Script.parseType ((sampleResolver.resolve sampleSchema).render .typeScript) =
        some (sampleResolver.resolve sampleSchema).type.tree := by
  have writes : sampleResolver.WritesImports := Or.inr ⟨_, rfl⟩
  have plain : sampleSchema.isPlain = true := rfl
  exact ⟨writes, plain, by decide +kernel, parseType_render_resolve writes plain⟩

end TypedClient.TypeResolver
