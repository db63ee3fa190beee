/-
# Emitted statements and functions

A statement is emitted as lines that layout keeps, by induction over the statements
inside it, and a function as its header with a body: statements in a block, or an
expression below the arrow.
-/

import TypedClient.Code.Function
import TypedClient.Proofs.Code.Expr

namespace TypedClient.Code

open Layout

namespace Statement

/-- A statement whose expressions are written as they can be. -/
inductive IsWritten : Statement → Prop
  | constant {name : String} {value : Expr} (valid : Naming.isValidIdentifier name = true)
      (written : value.IsWritten) : IsWritten (.constant name value)
  | returned {value : Expr} (written : value.IsWritten) : IsWritten (.returned value)
  | thrown {value : Expr} (written : value.IsWritten) : IsWritten (.thrown value)
  | guarded {condition action : Expr} (inlineCondition : condition.IsInline)
      (inlineAction : action.IsInline) : IsWritten (.guarded condition action)
  | branch {condition : Expr} {body : List Statement} (inline : condition.IsInline)
      (written : ∀ statement ∈ body, IsWritten statement) : IsWritten (.branch condition body)
  | forEach {binding : String} {items : Expr} {body : List Statement}
      (piece : Piece binding.toList []) (inline : items.IsInline)
      (written : ∀ statement ∈ body, IsWritten statement) :
      IsWritten (.forEach binding items body)

theorem toList_emitBody (level : Nat) (body : List Statement) :
    (emitBody level body).toList = body.flatMap fun statement => (emit level statement).toList := by
  induction body with
  | nil => rfl
  | cons statement rest ih => rw [emitBody, String.toList_append, ih, List.flatMap_cons]

/-- Statements in a block, behind a head that opens it. -/
theorem emitted_block {level : Nat} {head text : List Char} {body : List Statement}
    (isEnd : IsBlockEnd text) (piece : Piece head []) (starts : StartsPlainly head)
    (isCode : startsComment (head ++ " \x7b".toList) = false)
    (declares : declarationFault? (head ++ " \x7b".toList) = none)
    (emitted : ∀ statement ∈ body, Emitted false (level + 1) (emit (level + 1) statement).toList) :
    Emitted false level ((indentation level).toList ++ head ++ " \x7b\n".toList ++
      (emitBody (level + 1) body).toList ++
        (indentation level).toList ++ '}' :: (text ++ ['\n'])) := by
  have blank : Piece [' '] [] := Piece.plain rfl
  have brace : Piece " \x7b".toList [.brace] := blank.append (Piece.opening (c := '{') rfl)
  have ends : EndsPlainly (head ++ " \x7b".toList) :=
    EndsPlainly.prepend (endsPlainly_of_getLast? rfl) head
  have line : CodeLine (head ++ " \x7b".toList) [.brace] :=
    ⟨piece.append brace, starts.append _, ends, declares⟩
  have inside : Emitted false (level + 1) (emitBody (level + 1) body).toList := by
    rw [toList_emitBody]
    exact Emitted.flatMap emitted
  have isPlace : level + false.toNat = level := rfl
  have block := Emitted.block line isCode (List.cons_ne_nil _ _) isPlace inside isEnd
  simpa [closersOf, Delimiter.closer?] using block

/-- A condition in its parentheses. -/
theorem piece_condition {condition : Expr} (inline : condition.IsInline) (level : Nat) :
    Piece ("if ".toList ++ '(' :: ((condition.emit level).toList ++ [')'])) [] := by
  have word : Piece "if ".toList [] := Piece.plain rfl
  exact word.append_closed ((inline.piece level).enclosed rfl rfl)

/-- A statement is emitted as lines that layout keeps. -/
theorem IsWritten.emitted {statement : Statement} (written : statement.IsWritten) (level : Nat) :
    Emitted false level (statement.emit level).toList := by
  induction written generalizing level with
  | @constant name value valid written =>
      have word : Piece "const ".toList [] := Piece.plain rfl
      have sign : Piece " = ".toList [] := Piece.plain rfl
      have isName := piece_of_isName (Naming.isName_of_isValidIdentifier valid)
      have declares : ∀ rest, declarationFault?
          (("const ".toList ++ (name.toList ++ " = ".toList)) ++ rest) = none := by
        intro rest
        have notExported : ([] : List Char) ∈ [[], "export ".toList] := List.mem_cons_self
        rw [List.append_assoc, List.append_assoc]
        exact declarationFault?_declaration notExported (by decide) valid
          (by rintro c ⟨⟩; decide)
      have line := written.emitted (word.append_closed (isName.append_closed sign))
        (startsPlainly_cons _) (fun rest => rfl) declares level
      simpa [emit] using line
  | @returned value written =>
      have word : Piece "return ".toList [] := Piece.plain rfl
      have line := written.emitted word (startsPlainly_cons _)
        (fun rest => rfl) (fun rest => rfl) level
      simpa [emit] using line
  | @thrown value written =>
      have word : Piece "throw ".toList [] := Piece.plain rfl
      have line := written.emitted word (startsPlainly_cons _)
        (fun rest => rfl) (fun rest => rfl) level
      simpa [emit] using line
  | @guarded condition action inlineCondition inlineAction =>
      have blank : Piece " ".toList [] := Piece.plain rfl
      have before := (piece_condition inlineCondition level).append_closed blank
      have line := Expr.IsWritten.emitted (Or.inl inlineAction) before
        (startsPlainly_cons _) (fun rest => rfl) (fun rest => rfl) level
      simpa [emit] using line
  | @branch condition body inline written ih =>
      have block := emitted_block (Or.inl rfl) (piece_condition inline level)
        (startsPlainly_cons _) rfl rfl
        fun statement member => ih statement member (level + 1)
      simpa [emit] using block
  | @forEach binding items body piece inline written ih =>
      have word : Piece "for ".toList [] := Piece.plain rfl
      have const : Piece "const ".toList [] := Piece.plain rfl
      have between : Piece " of ".toList [] := Piece.plain rfl
      have inner := const.append_closed (piece.append_closed
        (between.append_closed (inline.piece level)))
      have head := word.append_closed (inner.enclosed (c := '(') rfl rfl)
      have block := emitted_block (Or.inl rfl) head (startsPlainly_cons _) rfl rfl
        fun statement member => ih statement member (level + 1)
      simpa [emit] using block

end Statement

/-! ## Functions -/

namespace Function

/-- A function whose header is on one line and whose body can be written. -/
structure IsWritten (function : Function) : Prop where
  valid : Naming.isValidIdentifier function.name = true
  parameters : Piece function.parameters.toList []
  returnType : ∀ type ∈ function.returnType?, Piece type.toList []

/-- The header up to the arrow, behind the declared name. -/
def afterName (function : Function) : List Char :=
  " = ".toList ++ (if function.isAsync then "async " else "").toList ++
    function.parameters.toList ++ ((function.returnType?.map (": " ++ ·)).getD "").toList

theorem toList_header (function : Function) :
    function.header.toList =
      "export ".toList ++ "const ".toList ++ (function.name.toList ++ function.afterName) ++
        " =>".toList := by
  have words : "export const ".toList = "export ".toList ++ "const ".toList := by decide
  unfold header afterName
  simp only [String.toList_append, words, List.append_assoc]

theorem piece_header {function : Function} (written : function.IsWritten) :
    Piece function.header.toList [] := by
  have words : Piece ("export ".toList ++ "const ".toList) [] := Piece.plain rfl
  have isName := piece_of_isName (Naming.isName_of_isValidIdentifier written.valid)
  have sign : Piece " = ".toList [] := Piece.plain rfl
  have async : Piece (if function.isAsync then "async " else "").toList [] := by
    cases function.isAsync <;> exact Piece.plain rfl
  have returned : Piece ((function.returnType?.map (": " ++ ·)).getD "").toList [] := by
    cases isType : function.returnType? with
    | none => exact Piece.nil
    | some type =>
        have colon : Piece ": ".toList [] := Piece.plain rfl
        have piece := colon.append_closed (written.returnType type isType)
        simpa using piece
  have arrow : Piece " =>".toList [] := Piece.plain rfl
  have rest := ((sign.append_closed async).append_closed written.parameters).append_closed returned
  rw [toList_header]
  exact (words.append_closed (isName.append_closed rest)).append_closed arrow

theorem declarationFault?_header {function : Function} (written : function.IsWritten)
    (rest : List Char) : declarationFault? (function.header.toList ++ rest) = none := by
  have shape : function.header.toList ++ rest =
      "export ".toList ++ "const ".toList ++
        (function.name.toList ++ (function.afterName ++ (" =>".toList ++ rest))) := by
    rw [toList_header]
    simp only [List.append_assoc]
  have ends : ∀ c ∈ (function.afterName ++ (" =>".toList ++ rest)).head?,
      Naming.isIdentifierPart c = false := by
    rintro c ⟨⟩
    decide
  rw [shape]
  exact declarationFault?_declaration (by decide) (by decide) written.valid ends

theorem startsPlainly_header (function : Function) : StartsPlainly function.header.toList := by
  rw [toList_header]
  exact startsPlainly_cons _

theorem startsComment_header (function : Function) (rest : List Char) :
    startsComment (function.header.toList ++ rest) = false := by
  rw [toList_header]
  rfl

/-- A function of statements. -/
theorem emitted_block {function : Function} (written : function.IsWritten)
    {statements : List Statement} (isBody : function.body = .block statements)
    (each : ∀ statement ∈ statements, statement.IsWritten) :
    Emitted false 0 function.emit.toList := by
  have isEnd : IsBlockEnd [';'] := Or.inr rfl
  have block : Emitted false 0 _ := Statement.emitted_block isEnd (piece_header written)
    (startsPlainly_header function) (startsComment_header function _)
    (declarationFault?_header written _)
    fun statement member => (each statement member).emitted 1
  simpa [emit, isBody, toList_indentation] using block

/-- A function whose body is an expression that spreads over lines. -/
theorem emitted_expression {function : Function} (written : function.IsWritten)
    {value : Expr} (isBody : function.body = .expression value) {head : List Char}
    (spreads : Expr.Spreads 1 head (value.emit 1).toList) (starts : StartsPlainly head)
    (isCode : startsComment (head ++ ['{']) = false)
    (declares : declarationFault? (head ++ ['{']) = none) :
    Emitted false 0 function.emit.toList := by
  have below : Emitted true 0 ((indentation 1).toList ++ (value.emit 1).toList ++ [';', '\n']) :=
    spreads.emitted starts isCode declares rfl
  have isArrow : endsInArrow function.header.toList = true := by
    rw [toList_header, endsInArrow, List.reverse_append]
    rfl
  have visible : ∀ c ∈ function.header.toList.getLast?, Text.isWhiteSpace c = false := by
    intro c last
    rw [toList_header, List.getLast?_append] at last
    cases last
    decide
  have code : CodeText function.header.toList [] :=
    (piece_header written).codeText (startsPlainly_header function) visible
      (by simpa using declarationFault?_header written [])
  have whole : Emitted false 0 _ := Emitted.belowArrow code
    (by simpa using startsComment_header function []) isArrow below
  simpa [emit, isBody, toList_indentation] using whole

end Function

end TypedClient.Code
