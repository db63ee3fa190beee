/-
# Rendered types are pieces

Whatever a schema resolves to, its text in an annotation opens and closes its own
brackets, so it can stand in any line of code.
-/

import TypedClient.Proofs.Layout.Value
import TypedClient.Proofs.Types.ParseRender

namespace TypedClient.TypeExpr

open Layout

variable {plain : Prop}

theorem piece_besideOthers {type : TypeExpr} {text : String} (piece : Piece text.toList []) :
    Piece (besideOthers type text).toList [] := by
  unfold besideOthers
  split
  · simpa using piece.enclosed (c := '(') rfl rfl
  · exact piece

theorem piece_compose {separator : String} {members : List TypeExpr}
    (signs : separator.toList.all Piece.isPlainChar = true) (several : 2 ≤ members.length)
    (each : ∀ member ∈ members, Piece (member.render .typeScript).toList []) :
    Piece (compose .typeScript separator members
      (members.map (render .typeScript))).toList [] := by
  rw [compose_of_length .typeScript separator several]
  apply piece_intercalate signs
  intro text isText
  obtain ⟨member, isMember, rfl⟩ := List.mem_map.mp isText
  exact piece_besideOthers (each member isMember)

theorem piece_renderField {field : TypeField}
    (piece : Piece (field.type.render .typeScript).toList []) :
    Piece (renderField .typeScript field).toList [] := by
  obtain ⟨name, type, optional, description?⟩ := field
  have mark : Piece (if optional then "?" else "").toList [] := by
    cases optional <;> exact Piece.plain rfl
  have colon : Piece ": ".toList [] := Piece.plain rfl
  rw [renderField, String.toList_append, String.toList_append, String.toList_append]
  exact (((piece_propertyKey name).append_closed mark).append_closed colon).append_closed piece

theorem piece_recordText {fields : List TypeField}
    (each : ∀ field ∈ fields, Piece (field.type.render .typeScript).toList []) :
    Piece (recordText .typeScript (fields.map (renderField .typeScript))).toList [] := by
  have inner : Piece ("; ".intercalate (fields.map (renderField .typeScript))).toList [] := by
    apply piece_intercalate (by decide)
    intro text isText
    obtain ⟨field, isField, rfl⟩ := List.mem_map.mp isText
    exact piece_renderField (each field isField)
  cases fields with
  | nil => exact Piece.nil.enclosed (c := '{') rfl rfl
  | cons first rest =>
      simpa [recordText] using inner.braced

/-- The text of a resolved type is a piece. -/
theorem IsResolved.piece {type : TypeExpr} (resolved : type.IsResolved plain) :
    Piece (type.render .typeScript).toList [] := by
  induction resolved with
  | any => exact Piece.plain rfl
  | object => exact Piece.plain rfl
  | primitive type => exact piece_of_isName (isName_primitive type)
  | named isName => exact piece_of_isName isName
  | array resolved ih =>
      have brackets : Piece "[]".toList [] := Piece.nil.enclosed (c := '[') rfl rfl
      rw [render, String.toList_append]
      exact (piece_besideOthers ih).append_closed brackets
  | record nonempty resolved ih =>
      rw [render, renderFields_eq_map]
      exact piece_recordText ih
  | map resolved ih =>
      have opening : Piece "Record<string, ".toList [] := Piece.plain rfl
      have closing : Piece ">".toList [] := Piece.plain rfl
      rw [render, String.toList_append, String.toList_append]
      exact (opening.append_closed ih).append_closed closing
  | @literals values nonempty =>
      rw [render]
      apply piece_intercalate (by decide)
      intro text isText
      obtain ⟨value, -, rfl⟩ := List.mem_map.mp isText
      exact piece_quoteLiteral value
  | union several resolved ih =>
      rw [render, renderMembers_eq_map]
      exact piece_compose (by decide) several ih
  | intersection several resolved ih =>
      rw [render, renderMembers_eq_map]
      exact piece_compose (by decide) several ih
  | tags loose tags => exact piece_compact (.array tags)

end TypedClient.TypeExpr
