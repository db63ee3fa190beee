/-
# Where doc comments end

Descriptions are guarded before they go into a comment. Types and keys are written as they are, and
nothing that stands between them can be taken for a part of an end sign. So the comment that defines
a type ends before its end exactly if a text in the type, which a document may choose as it likes,
has an end sign in it.
-/

import TypedClient.Declaration.Emit
import TypedClient.Proofs.Declaration.Comment
import TypedClient.Proofs.Types.ParseRender

namespace TypedClient

/-! ## End signs -/

namespace Comment

/-- Whether a text has the end sign of a comment in it. -/
def HasEnd (text : String) : Prop :=
  ['*', '/'] <:+: text.toList

instance (text : String) : Decidable (HasEnd text) :=
  inferInstanceAs (Decidable (['*', '/'] <:+: text.toList))

theorem not_hasEnd_of_notMem {text : String} (noSlash : '/' ∉ text.toList) : ¬ HasEnd text :=
  fun inText => noSlash (inText.subset (List.mem_cons_of_mem _ List.mem_cons_self))

/-- A text that makes no end sign with the texts on either side of it. -/
def IsFence (text : String) : Prop :=
  text.toList ≠ [] ∧ '/' ∉ text.toList ∧ text.toList.getLast? ≠ some '*'

instance (text : String) : Decidable (IsFence text) :=
  inferInstanceAs (Decidable (_ ∧ _ ∧ _))

theorem prefix_cons_append_iff {c : Char} {front rest : List Char}
    (apart : (c :: front).getLast? ≠ some '*' ∨ rest.head? ≠ some '/') :
    ['*', '/'] <+: c :: (front ++ rest) ↔ ['*', '/'] <+: c :: front := by
  cases front with
  | cons d front => simp [List.cons_prefix_cons]
  | nil =>
      refine ⟨fun atStart => ?_, fun atStart => absurd atStart (by simp [List.cons_prefix_cons])⟩
      obtain ⟨tail, same⟩ := atStart
      obtain ⟨rfl, rfl⟩ := List.cons.inj same
      exact absurd apart (by simp)

/-- An end sign in two texts side by side is in one of them, unless it comes about where they
meet. -/
theorem infix_append_iff {front rest : List Char}
    (apart : front.getLast? ≠ some '*' ∨ rest.head? ≠ some '/') :
    ['*', '/'] <:+: front ++ rest ↔ ['*', '/'] <:+: front ∨ ['*', '/'] <:+: rest := by
  induction front with
  | nil => simp
  | cons c front ih =>
      have apartRest : front.getLast? ≠ some '*' ∨ rest.head? ≠ some '/' := by
        refine apart.imp_left fun last inFront => last ?_
        rw [List.getLast?_cons, inFront]
        rfl
      rw [List.cons_append, List.infix_cons_iff, List.infix_cons_iff, ih apartRest,
        prefix_cons_append_iff apart, or_assoc]

theorem hasEnd_append_iff {first second : String}
    (apart : first.toList.getLast? ≠ some '*' ∨ second.toList.head? ≠ some '/') :
    HasEnd (first ++ second) ↔ HasEnd first ∨ HasEnd second := by
  rw [HasEnd, String.toList_append]
  exact infix_append_iff apart

section Fences

variable {fence : String} (isFence : IsFence fence)

include isFence

theorem hasEnd_fence_append (text : String) : HasEnd (fence ++ text) ↔ HasEnd text :=
  (hasEnd_append_iff (Or.inl isFence.2.2)).trans (or_iff_right (not_hasEnd_of_notMem isFence.2.1))

theorem hasEnd_append_fence (text : String) : HasEnd (text ++ fence) ↔ HasEnd text := by
  have head : fence.toList.head? ≠ some '/' := fun atHead =>
    isFence.2.1 (List.mem_of_mem_head? atHead)
  rw [hasEnd_append_iff (Or.inr head), or_iff_left (not_hasEnd_of_notMem isFence.2.1)]

theorem hasEnd_append_fence_append (first second : String) :
    HasEnd (first ++ fence ++ second) ↔ HasEnd first ∨ HasEnd second := by
  have last : (first ++ fence).toList.getLast? ≠ some '*' := by
    rw [String.toList_append, List.getLast?_append_of_ne_nil _ isFence.1]
    exact isFence.2.2
  rw [hasEnd_append_iff (Or.inl last), hasEnd_append_fence isFence]

/-- A text in brackets. -/
theorem hasEnd_enclosed {closing : String} (closes : IsFence closing) (text : String) :
    HasEnd (fence ++ text ++ closing) ↔ HasEnd text :=
  (hasEnd_append_fence closes _).trans (hasEnd_fence_append isFence text)

theorem hasEnd_intercalate (texts : List String) :
    HasEnd (fence.intercalate texts) ↔ ∃ text ∈ texts, HasEnd text := by
  induction texts with
  | nil => simp [HasEnd]
  | cons first rest ih =>
      cases rest with
      | nil => simp
      | cons second rest =>
          rw [String.intercalate_cons_cons, hasEnd_append_fence_append isFence, ih]
          simp

end Fences

/-- Lines side by side, each of which starts with a blank. -/
theorem hasEnd_join {lines : List String} (blank : ∀ line ∈ lines, line.toList.head? = some ' ') :
    HasEnd (String.join lines) ↔ ∃ line ∈ lines, HasEnd line := by
  induction lines with
  | nil => simp [HasEnd]
  | cons line rest ih =>
      have head : (String.join rest).toList.head? ≠ some '/' := by
        cases rest with
        | nil => simp
        | cons next rest =>
            rw [String.join_cons, String.toList_append, List.head?_append,
              blank next (List.mem_cons_of_mem _ List.mem_cons_self)]
            simp
      obtain ⟨-, blankRest⟩ := List.forall_mem_cons.mp blank
      rw [String.join_cons, hasEnd_append_iff (Or.inr head), ih blankRest]
      simp

/-! ## Literals, keys and names -/

theorem star_notMem_hexDigits (width value : Nat) : '*' ∉ Text.hexDigits width value := by
  have digit : ∀ digit < 16, '*' ≠ Nat.digitChar digit := by decide
  induction width generalizing value with
  | zero => exact List.not_mem_nil
  | succ width ih =>
      rw [Text.hexDigits, List.mem_append, List.mem_singleton, not_or]
      exact ⟨ih (value / 16), digit _ (Nat.mod_lt _ (by decide))⟩

/-- A character is written as it is, or behind a backslash and without stars. Signs of comments are
written as they are. -/
theorem escapeChar_cases (c : Char) :
    Naming.escapeChar c = [c] ∨
      (c ≠ '*' ∧ c ≠ '/') ∧ ∃ rest, Naming.escapeChar c = '\\' :: rest ∧ '*' ∉ rest := by
  unfold Naming.escapeChar
  split
  · exact Or.inr ⟨by decide, _, rfl, by decide⟩
  · exact Or.inr ⟨by decide, _, rfl, by decide⟩
  · exact Or.inr ⟨by decide, _, rfl, by decide⟩
  · exact Or.inr ⟨by decide, _, rfl, by decide⟩
  · exact Or.inr ⟨by decide, _, rfl, by decide⟩
  · split
    · rename_i special
      refine Or.inr ⟨⟨?_, ?_⟩, _, rfl, by simp [star_notMem_hexDigits]⟩
      · rintro rfl
        exact absurd special (by decide)
      · rintro rfl
        exact absurd special (by decide)
    · exact Or.inl rfl

theorem star_notMem_escapeChar {c : Char} (notStar : c ≠ '*') : '*' ∉ Naming.escapeChar c := by
  rcases escapeChar_cases c with asItIs | ⟨-, rest, escaped, noStar⟩
  · simp [asItIs, notStar.symm]
  · simp [escaped, noStar]

theorem head?_escapeLiteral_iff (cs : List Char) :
    (cs.flatMap Naming.escapeChar).head? = some '/' ↔ cs.head? = some '/' := by
  cases cs with
  | nil => simp
  | cons c rest =>
      rw [List.flatMap_cons]
      rcases escapeChar_cases c with asItIs | ⟨⟨-, notSlash⟩, tail, escaped, -⟩
      · simp [asItIs]
      · simp [escaped, notSlash]

theorem infix_append_of_notMem {front : List Char} (noStar : '*' ∉ front) (rest : List Char) :
    ['*', '/'] <:+: front ++ rest ↔ ['*', '/'] <:+: rest := by
  have last : front.getLast? ≠ some '*' := fun atEnd => noStar (List.mem_of_getLast? atEnd)
  rw [infix_append_iff (Or.inl last)]
  exact or_iff_right fun inFront => noStar (inFront.subset List.mem_cons_self)

/-- Escapes neither make an end sign nor break one up. -/
theorem infix_escapeLiteral_iff (cs : List Char) :
    ['*', '/'] <:+: cs.flatMap Naming.escapeChar ↔ ['*', '/'] <:+: cs := by
  have starts : ∀ cs : List Char, ['*', '/'] <+: '*' :: cs ↔ cs.head? = some '/' := by
    intro cs
    cases cs <;> simp [List.cons_prefix_cons, eq_comm]
  induction cs with
  | nil => rfl
  | cons c rest ih =>
      rw [List.flatMap_cons]
      -- An end sign can only start at a star, which is written as it is.
      by_cases star : c = '*'
      · subst star
        have written : Naming.escapeChar '*' = ['*'] := by decide
        rw [written, List.singleton_append, List.infix_cons_iff, List.infix_cons_iff, starts,
          starts, head?_escapeLiteral_iff]
        exact or_congr_right ih
      · have apart : '*' ∉ [c] := by simp [Ne.symm star]
        rw [infix_append_of_notMem (star_notMem_escapeChar star)]
        exact ih.trans (infix_append_of_notMem apart rest).symm

theorem hasEnd_quoteLiteral (text : String) : HasEnd (Naming.quoteLiteral text) ↔ HasEnd text := by
  have quote : IsFence "\"" := by decide
  rw [Naming.quoteLiteral, hasEnd_enclosed quote quote, HasEnd, Naming.escapeLiteral,
    String.toList_ofList]
  exact infix_escapeLiteral_iff text.toList

theorem hasEnd_propertyKey (key : String) : HasEnd (Naming.propertyKey key) ↔ HasEnd key := by
  unfold Naming.propertyKey
  split
  · exact hasEnd_quoteLiteral key
  · exact Iff.rfl

theorem not_hasEnd_of_isName {name : String} (isName : Naming.IsName name) : ¬ HasEnd name := by
  intro inName
  have star : '*' ∈ name.toList := inName.subset List.mem_cons_self
  exact absurd (isName.part '*' star) (by decide)

end Comment

open Comment

/-! ## Texts in types -/

namespace TypeExpr

mutual

/-- The texts in a type that a document may choose as it likes: keys, literals, and what is written
as it is. -/
def texts : TypeExpr → List String
  | raw text => [text]
  | literals values => values
  | array item => texts item
  | map value => texts value
  | record fields => textsOfFields fields
  | union members | intersection members => textsOfMembers members
  | any | object | primitive _ | named _ => []

/-- The texts in several types. -/
def textsOfMembers : List TypeExpr → List String
  | [] => []
  | member :: rest => texts member ++ textsOfMembers rest

/-- The texts of a field. -/
def textsOfField : TypeField → List String
  | .mk name type _ _ => name :: texts type

/-- The texts of several fields. -/
def textsOfFields : List TypeField → List String
  | [] => []
  | field :: rest => textsOfField field ++ textsOfFields rest

end

/-- Whether a text in the type has an end sign in it. -/
def HasEndInside (type : TypeExpr) : Prop :=
  ∃ text ∈ type.texts, HasEnd text

theorem hasEndInside_members {members : List TypeExpr} :
    (∃ text ∈ textsOfMembers members, HasEnd text) ↔ ∃ member ∈ members, member.HasEndInside := by
  induction members with
  | nil => simp [textsOfMembers]
  | cons member rest ih =>
      simp [textsOfMembers, or_and_right, exists_or, ih, HasEndInside]

theorem textsOfField_eq (field : TypeField) :
    textsOfField field = field.name :: field.type.texts := by
  cases field with
  | mk name type optional description? => rw [textsOfField, TypeField.name, TypeField.type]

theorem hasEndInside_record {fields : List TypeField} :
    (record fields).HasEndInside ↔
      ∃ field ∈ fields, HasEnd field.name ∨ field.type.HasEndInside := by
  rw [HasEndInside, texts]
  induction fields with
  | nil => simp [textsOfFields]
  | cons field rest ih =>
      simp [textsOfFields, textsOfField_eq, or_and_right, exists_or, ih, HasEndInside, or_assoc]

theorem hasEnd_besideOthers (type : TypeExpr) (text : String) :
    HasEnd (type.besideOthers text) ↔ HasEnd text := by
  unfold besideOthers
  split
  · exact hasEnd_enclosed (by decide) (by decide) text
  · exact Iff.rfl

theorem hasEnd_compose {separator : String} (isFence : IsFence separator)
    {members : List TypeExpr} (several : 2 ≤ members.length)
    (each : ∀ member ∈ members, HasEnd (member.render .javaScript) ↔ member.HasEndInside) :
    HasEnd (compose .javaScript separator members (renderMembers .javaScript members)) ↔
      ∃ text ∈ textsOfMembers members, HasEnd text := by
  rw [renderMembers_eq_map, compose_of_length .javaScript separator several,
    hasEnd_intercalate isFence, hasEndInside_members]
  simp only [List.mem_map, exists_exists_and_eq_and, hasEnd_besideOthers]
  exact exists_congr fun member => and_congr_right (each member)

/-- A field has an end sign in its key or in its type. -/
theorem hasEnd_renderField (field : TypeField) :
    HasEnd (renderField .javaScript field) ↔
      HasEnd field.name ∨ HasEnd (field.type.render .javaScript) := by
  obtain ⟨name, type, optional, description?⟩ := field
  rw [renderField, hasEnd_append_fence_append (by decide)]
  cases optional with
  | true =>
      rw [if_pos rfl, hasEnd_append_fence (by decide), hasEnd_propertyKey]
      rfl
  | false =>
      rw [if_neg Bool.false_ne_true, String.append_empty, hasEnd_propertyKey]
      rfl

theorem recordText_of_ne_nil {texts : List String} (nonempty : texts ≠ []) :
    recordText .javaScript texts = "\x7b " ++ ", ".intercalate texts ++ " \x7d" := by
  cases texts with
  | nil => exact absurd rfl nonempty
  | cons first rest => rfl

/-- The text of a resolved type in a plain module has an end sign in it exactly if a text in the
type has one. -/
theorem IsResolved.hasEnd_render {type : TypeExpr} {plain : Prop}
    (resolved : type.IsResolved plain) :
    HasEnd (type.render .javaScript) ↔ type.HasEndInside := by
  have opensArray : IsFence "Array<" := by decide
  have opensMap : IsFence "Object<string, " := by decide
  have closes : IsFence ">" := by decide
  induction resolved with
  | any =>
      have noEnd : ¬ HasEnd "*" := not_hasEnd_of_notMem (by decide)
      simpa [render, HasEndInside, texts, anyText] using noEnd
  | object =>
      have noEnd : ¬ HasEnd "Object" := not_hasEnd_of_notMem (by decide)
      simpa [render, HasEndInside, texts] using noEnd
  | primitive type =>
      simpa [render, HasEndInside, texts] using not_hasEnd_of_isName (isName_primitive type)
  | named isName =>
      simpa [render, HasEndInside, texts] using not_hasEnd_of_isName isName
  | @array item resolved ih =>
      have written : (TypeExpr.array item).render .javaScript =
          "Array<" ++ item.render .javaScript ++ ">" := by rw [render]
      rw [written, hasEnd_enclosed opensArray closes, HasEndInside, texts]
      exact ih
  | @record fields nonempty resolved ih =>
      have several : fields.map (renderField .javaScript) ≠ [] := by simpa using nonempty
      rw [render, renderFields_eq_map, hasEndInside_record, recordText_of_ne_nil several,
        hasEnd_enclosed (by decide) (by decide), hasEnd_intercalate (by decide)]
      simp only [List.mem_map, exists_exists_and_eq_and, hasEnd_renderField]
      exact exists_congr fun field => and_congr_right fun member => or_congr_right (ih field member)
  | @map value resolved ih =>
      have written : (TypeExpr.map value).render .javaScript =
          "Object<string, " ++ value.render .javaScript ++ ">" := by rw [render]
      rw [written, hasEnd_enclosed opensMap closes, HasEndInside, texts]
      exact ih
  | literals nonempty =>
      rw [render, HasEndInside, texts, hasEnd_intercalate (by decide)]
      simp only [List.mem_map, exists_exists_and_eq_and, hasEnd_quoteLiteral]
  | union several resolved ih =>
      rw [render, HasEndInside, texts]
      exact hasEnd_compose (by decide) several ih
  | intersection several resolved ih =>
      rw [render, HasEndInside, texts]
      exact hasEnd_compose (by decide) several ih
  | tags loose tags => simp [render, HasEndInside, texts]

end TypeExpr

/-! ## Whole comments -/

namespace Comment

/-- A comment that ends at its end and nowhere before. -/
def IsClosedOnce (block : String) : Prop :=
  ∃ inner, block = "/**" ++ inner ++ "*/\n" ∧ ¬ HasEnd ("/**" ++ inner)

/-- Lines in a comment of several lines end it before its end exactly if there is an end sign in
them. -/
theorem isClosedOnce_iff (lines : String) :
    IsClosedOnce ("/**\n" ++ lines ++ " */\n") ↔ ¬ HasEnd lines := by
  have parts : "/**\n" ++ lines ++ " */\n" = "/**" ++ ("\n" ++ lines ++ " ") ++ "*/\n" := by
    apply String.toList_injective
    simp
  have inside : HasEnd ("/**" ++ ("\n" ++ lines ++ " ")) ↔ HasEnd lines := by
    have opening : ¬ HasEnd "/**" := by decide +kernel
    have head : ("\n" ++ lines ++ " ").toList.head? ≠ some '/' := by simp
    rw [hasEnd_append_iff (Or.inr head), or_iff_right opening,
      hasEnd_enclosed (by decide) (by decide)]
  rw [parts, ← inside]
  constructor
  · rintro ⟨inner, same, noEnd⟩
    rwa [(String.append_right_inj _).mp ((String.append_left_inj _).mp same)]
  · exact fun noEnd => ⟨_, rfl, noEnd⟩

theorem hasEnd_starLine (line : String) : HasEnd (starLine "" line) ↔ HasEnd line :=
  hasEnd_enclosed (by decide) (by decide) line

theorem head?_starLine (line : String) : (starLine "" line).toList.head? = some ' ' := by
  simp [starLine]

/-- The lines of a guarded text end no comment. -/
theorem not_hasEnd_starLines (text : String) :
    ¬ HasEnd (String.join ((trimmedLines (guard text)).map (starLine ""))) := by
  rw [hasEnd_join (List.forall_mem_map.mpr fun line _ => head?_starLine line)]
  rintro ⟨_, member, inLine⟩
  obtain ⟨trimmed, isTrimmed, rfl⟩ := List.mem_map.mp member
  obtain ⟨line, isLine, rfl⟩ := List.mem_map.mp isTrimmed
  have body := commentBody_trimEnd (commentBody_of_mem_lines (noEnd_guard text) isLine)
  exact body.noEnd ((hasEnd_starLine _).mp inLine)

end Comment

namespace Definition

/-- The line of a property has an end sign in its key or in its type. -/
theorem hasEnd_propertyLine (field : TypeField) :
    HasEnd (propertyLine field) ↔ HasEnd field.name ∨ HasEnd (field.type.render .javaScript) := by
  have key : HasEnd (if field.optional then "[" ++ Naming.propertyKey field.name ++ "]"
      else Naming.propertyKey field.name) ↔ HasEnd field.name := by
    split
    · rw [hasEnd_enclosed (by decide) (by decide), hasEnd_propertyKey]
    · exact hasEnd_propertyKey field.name
  have line : HasEnd (" * @property \x7b" ++ field.type.render .javaScript ++ "\x7d " ++
      if field.optional then "[" ++ Naming.propertyKey field.name ++ "]"
      else Naming.propertyKey field.name) ↔
      HasEnd field.name ∨ HasEnd (field.type.render .javaScript) := by
    rw [hasEnd_append_fence_append (by decide), hasEnd_fence_append (by decide), key, or_comm]
  unfold propertyLine
  simp only
  split
  · rename_i content _
    have noEnd := noEnd_guard (Text.replaceAll "\n" " " content)
    rw [hasEnd_append_fence (by decide), hasEnd_append_fence_append (by decide), line]
    exact or_iff_left noEnd
  · rw [hasEnd_append_fence (by decide), line]

theorem head?_propertyLine (field : TypeField) :
    (propertyLine field).toList.head? = some ' ' := by
  unfold propertyLine
  simp only
  split <;> simp

/-- The lines that describe a type. -/
def descriptionLines (description? : Option String) : String :=
  match Comment.content? description? with
  | some content => String.join ((trimmedLines (guard content)).map (starLine ""))
  | none => ""

/-- The lines that define a type. -/
def typeLines (name : String) : TypeExpr → String
  | .record fields =>
    " * @typedef \x7bObject\x7d " ++ name ++ "\n" ++ String.join (fields.map propertyLine)
  | type => " * @typedef \x7b" ++ type.render .javaScript ++ "\x7d " ++ name ++ "\n"

theorem javaScript_eq (definition : Definition) :
    definition.javaScript =
      "/**\n" ++ (descriptionLines definition.resolved.description? ++
        typeLines definition.name definition.resolved.type) ++ " */\n" := by
  rw [javaScript, ← String.append_assoc]
  rfl

theorem not_hasEnd_descriptionLines (description? : Option String) :
    ¬ HasEnd (descriptionLines description?) := by
  unfold descriptionLines
  split
  · exact not_hasEnd_starLines _
  · exact not_hasEnd_of_notMem (by decide)

theorem head?_typeLines (name : String) (type : TypeExpr) :
    (typeLines name type).toList.head? = some ' ' := by
  unfold typeLines
  split <;> simp

theorem hasEnd_typeLines {name : String} {type : TypeExpr} {plain : Prop}
    (isName : Naming.IsName name) (resolved : type.IsResolved plain) :
    HasEnd (typeLines name type) ↔ type.HasEndInside := by
  have noEnd := not_hasEnd_of_isName isName
  unfold typeLines
  split
  · rename_i fields
    cases resolved with
    | record nonempty each =>
        have blank : ∀ line ∈ fields.map propertyLine, line.toList.head? = some ' ' :=
          List.forall_mem_map.mpr fun field _ => head?_propertyLine field
        rw [hasEnd_append_fence_append (by decide), hasEnd_fence_append (by decide),
          or_iff_right noEnd, hasEnd_join blank, TypeExpr.hasEndInside_record]
        simp only [List.mem_map, exists_exists_and_eq_and, hasEnd_propertyLine]
        exact exists_congr fun field => and_congr_right fun member =>
          or_congr_right (each field member).hasEnd_render
  · rw [hasEnd_append_fence (by decide), hasEnd_append_fence_append (by decide),
      hasEnd_fence_append (by decide), or_iff_left noEnd]
    exact resolved.hasEnd_render

/-- The comment that defines a type ends before its end exactly if there is an end sign in a text of
the type. -/
theorem isClosedOnce_javaScript_iff {definition : Definition} {plain : Prop}
    (isName : Naming.IsName definition.name)
    (resolved : definition.resolved.type.IsResolved plain) :
    IsClosedOnce definition.javaScript ↔ ¬ definition.resolved.type.HasEndInside := by
  have head : (typeLines definition.name definition.resolved.type).toList.head? ≠ some '/' := by
    rw [head?_typeLines]
    simp
  rw [javaScript_eq, isClosedOnce_iff, hasEnd_append_iff (Or.inr head),
    or_iff_right (not_hasEnd_descriptionLines _), hasEnd_typeLines isName resolved]

end Definition

end TypedClient
