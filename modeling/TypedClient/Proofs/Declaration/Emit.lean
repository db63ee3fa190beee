/-
# Emitted declarations

An interface is a block of fields, each behind its comment, and a type alias is one
line. A field is no declaration of its own, because its key is quoted or has no blank
behind it, whatever word it is.
-/

import TypedClient.Declaration.Emit
import TypedClient.Proofs.Declaration.Comment
import TypedClient.Proofs.Types.Scanned

namespace TypedClient

open Code (indentation)
open Layout

/-! ## Fields -/

theorem startsPlainly_propertyKey (key : String) :
    StartsPlainly (Naming.propertyKey key).toList := by
  unfold Naming.propertyKey
  split
  · rw [Naming.quoteLiteral, String.toList_append, String.toList_append, List.append_assoc]
    exact startsPlainly_cons _
  · rename_i plain
    exact startsPlainly_of_isName (Naming.isName_of_needsQuotes_eq_false (by simpa using plain))

/-- A key declares nothing, even one that is a declaration word. -/
theorem startsNoWord_propertyKey (key : String) {rest : List Char} (noWord : StartsNoWord rest) :
    StartsNoWord ((Naming.propertyKey key).toList ++ rest) := by
  unfold Naming.propertyKey
  split
  · rw [Naming.quoteLiteral, String.toList_append, String.toList_append, List.append_assoc]
    exact startsNoWord_cons _
  · rename_i plain
    exact StartsNoWord.append (Naming.all_isKeyPart_of_needsQuotes_eq_false (by simpa using plain))
      noWord

namespace Definition

/-- A line of an interface starts with a key. -/
theorem toList_renderField (field : TypeField) :
    (TypeExpr.renderField .typeScript field).toList =
      (Naming.propertyKey field.name).toList ++ ((if field.optional then "?" else "").toList ++
        (": ".toList ++ (field.type.render .typeScript).toList)) := by
  obtain ⟨name, type, optional, description?⟩ := field
  rw [TypeExpr.renderField, String.toList_append, String.toList_append, String.toList_append,
    List.append_assoc, List.append_assoc]
  rfl

/-- The line of a field with the comment above it. -/
theorem emitted_interfaceField {field : TypeField}
    (piece : Piece (field.type.render .typeScript).toList []) :
    Emitted false 1 (interfaceField field).toList := by
  let text := (TypeExpr.renderField .typeScript field).toList ++ [';']
  have ends : EndsPlainly text := endsPlainly_append_singleton _
  have starts : StartsPlainly text := by
    refine StartsPlainly.append ?_ _
    rw [toList_renderField]
    exact (startsPlainly_propertyKey field.name).append _
  have noWord : StartsNoWord text := by
    simp only [text, toList_renderField, List.append_assoc]
    refine startsNoWord_propertyKey field.name ?_
    cases field.optional with
    | true => exact startsNoWord_cons _
    | false => exact startsNoWord_cons _
  have semicolon : Piece [';'] [] := Piece.plain rfl
  have closed : Piece text [] := (TypeExpr.piece_renderField piece).append_closed semicolon
  have line : Emitted false 1 ((indentation 1).toList ++ text ++ ['\n']) :=
    Emitted.codeLine ⟨closed, starts, ends, noWord.declarationFault?_eq_none⟩
  have indented : indentation 1 = "  " := by decide
  have whole := (Comment.emitted_block 1 field.description?).append line
  rw [indented] at whole
  simpa [interfaceField, text] using whole

/-- The head of an interface or an alias, up to the declared name. -/
theorem declarationFault?_exported {word : List Char} (isWord : word ∈ declarationWords)
    {name : String} (valid : Naming.isValidIdentifier name = true) (rest : List Char) :
    declarationFault? ("export ".toList ++ word ++ (name.toList ++ ' ' :: rest)) = none :=
  declarationFault?_declaration (by decide) isWord valid (by rintro c ⟨⟩; decide)

theorem emitted_interface {name : String} {fields : List TypeField}
    (valid : Naming.isValidIdentifier name = true)
    (each : ∀ field ∈ fields, Piece (field.type.render .typeScript).toList []) :
    Emitted false 0 ("export interface " ++ name ++ " \x7b\n" ++
      String.join (fields.map interfaceField) ++ "\x7d\n").toList := by
  let head := "export ".toList ++ "interface ".toList ++ (name.toList ++ [' ', '{'])
  have words : Piece ("export ".toList ++ "interface ".toList) [] := Piece.plain rfl
  have isName := piece_of_isName (Naming.isName_of_isValidIdentifier valid)
  have blank : Piece [' '] [] := Piece.plain rfl
  have brace : Piece [' ', '{'] [.brace] := blank.append (Piece.opening (c := '{') rfl)
  have ends : EndsPlainly head :=
    (EndsPlainly.prepend (endsPlainly_of_getLast? rfl) name.toList).prepend _
  have opens : CodeLine head [.brace] :=
    ⟨words.append (isName.append brace), startsPlainly_cons _, ends,
      declarationFault?_exported (by decide) valid ['{']⟩
  have inside : Emitted false 1 (fields.flatMap fun field => (interfaceField field).toList) :=
    Emitted.flatMap fun field member => emitted_interfaceField (each field member)
  have isEnd : IsBlockEnd [] := Or.inl rfl
  have isPlace : 0 + false.toNat = 0 := rfl
  have block := Emitted.block opens rfl (List.cons_ne_nil _ _) isPlace inside isEnd
  simpa [head, closersOf, Delimiter.closer?, toList_indentation, List.flatMap_map] using block

theorem emitted_alias {name : String} {type : TypeExpr}
    (valid : Naming.isValidIdentifier name = true)
    (piece : Piece (type.render .typeScript).toList []) :
    Emitted false 0
      ("export type " ++ name ++ " = " ++ type.render .typeScript ++ ";\n").toList := by
  let text := "export ".toList ++ "type ".toList ++
    (name.toList ++ (" = ".toList ++ ((type.render .typeScript).toList ++ [';'])))
  have words : Piece ("export ".toList ++ "type ".toList) [] := Piece.plain rfl
  have isName := piece_of_isName (Naming.isName_of_isValidIdentifier valid)
  have sign : Piece " = ".toList [] := Piece.plain rfl
  have semicolon : Piece [';'] [] := Piece.plain rfl
  have ends : EndsPlainly text :=
    (((endsPlainly_append_singleton _).prepend _).prepend _).prepend _
  have value := sign.append_closed (piece.append_closed semicolon)
  have line : Emitted false 0 ((indentation 0).toList ++ text ++ ['\n']) :=
    Emitted.codeLine ⟨words.append_closed (isName.append_closed value), startsPlainly_cons _, ends,
      declarationFault?_exported (by decide) valid _⟩
  simpa [text, toList_indentation] using line

/-- A declaration is kept. -/
theorem emitted_typeScript {definition : Definition} {plain : Prop}
    (valid : Naming.isValidIdentifier definition.name = true)
    (resolved : definition.resolved.type.IsResolved plain) :
    Emitted false 0 definition.typeScript.toList := by
  rw [typeScript, String.toList_append]
  refine (Comment.emitted_block 0 definition.resolved.description?).append ?_
  split
  · rename_i fields isRecord
    rw [isRecord] at resolved
    cases resolved with
    | record nonempty each =>
        exact emitted_interface valid fun field member => (each field member).piece
  · exact emitted_alias valid resolved.piece

end Definition

end TypedClient
