/-
# Emitted expressions

An expression without objects of several lines is emitted as a piece, by induction over
its parts. A call whose last argument is such an object is emitted as a block: its
first line opens the call and the object, each entry has a line one level deeper, and
its last line closes both.
-/

import TypedClient.Proofs.Layout.Emitted
import TypedClient.Proofs.Layout.Value

namespace TypedClient.Code

open Layout

namespace Expr

/-- An expression on one line whose parts are pieces. -/
inductive IsInline : Expr → Prop
  | identifier {name : String} (piece : Piece name.toList []) : IsInline (.identifier name)
  | literal (value : String) : IsInline (.literal value)
  | raw {code : String} (piece : Piece code.toList []) : IsInline (.raw code)
  | call {callee : String} {typeArguments : List String} {arguments : List Expr}
      (piece : Piece callee.toList [])
      (types : ∀ type ∈ typeArguments, Piece type.toList [])
      (inline : ∀ argument ∈ arguments, IsInline argument) :
      IsInline (.call callee typeArguments arguments)
  | construct {className : String} {arguments : List Expr} (piece : Piece className.toList [])
      (inline : ∀ argument ∈ arguments, IsInline argument) :
      IsInline (.construct className arguments)
  | inlineObject {entries : List (String × Expr)}
      (keys : ∀ entry ∈ entries, Piece entry.1.toList [])
      (inline : ∀ entry ∈ entries, IsInline entry.2) : IsInline (.inlineObject entries)
  | member {object : Expr} {property : String} (inline : IsInline object)
      (piece : Piece property.toList []) : IsInline (.member object property)
  | await {operand : Expr} (inline : IsInline operand) : IsInline (.await operand)
  | not {operand : Expr} (inline : IsInline operand) : IsInline (.not operand)
  | binary (operator : BinaryOperator) {left right : Expr} (inlineLeft : IsInline left)
      (inlineRight : IsInline right) : IsInline (.binary operator left right)
  | conditional {condition whenTrue whenFalse : Expr} (inlineCondition : IsInline condition)
      (inlineTrue : IsInline whenTrue) (inlineFalse : IsInline whenFalse) :
      IsInline (.conditional condition whenTrue whenFalse)
  | parenthesized {inner : Expr} (inline : IsInline inner) : IsInline (.parenthesized inner)
  | cast {operand : Expr} {type : String} (inline : IsInline operand)
      (piece : Piece type.toList []) : IsInline (.cast operand type)

theorem emitArguments_eq (level : Nat) (arguments : List Expr) :
    emitArguments level arguments = ", ".intercalate (arguments.map (emit level)) := by
  induction arguments with
  | nil => rfl
  | cons first rest ih =>
      cases rest with
      | nil => simp [emitArguments]
      | cons second rest =>
          rw [emitArguments, ih, List.map_cons, List.map_cons, List.map_cons,
            String.intercalate_cons_cons]
          exact List.cons_ne_nil second rest

theorem emitEntries_eq_map (level : Nat) (entries : List (String × Expr)) :
    emitEntries level entries = entries.map fun entry => entry.1 ++ ": " ++ emit level entry.2 := by
  induction entries with
  | nil => rfl
  | cons entry rest ih => rw [emitEntries, ih, List.map_cons]

theorem piece_emitArguments {level : Nat} {arguments : List Expr}
    (each : ∀ argument ∈ arguments, Piece (argument.emit level).toList []) :
    Piece (emitArguments level arguments).toList [] := by
  rw [emitArguments_eq]
  apply piece_intercalate (by decide)
  intro text isText
  obtain ⟨argument, isArgument, rfl⟩ := List.mem_map.mp isText
  exact each argument isArgument

theorem piece_typeArgumentList {types : List String} (each : ∀ type ∈ types, Piece type.toList []) :
    Piece (typeArgumentList types).toList [] := by
  have opening : Piece "<".toList [] := Piece.plain rfl
  have closing : Piece ">".toList [] := Piece.plain rfl
  cases types with
  | nil => exact Piece.nil
  | cons first rest =>
      rw [typeArgumentList, String.toList_append, String.toList_append]
      · exact (opening.append_closed (piece_intercalate (by decide) each)).append_closed closing
      · exact List.cons_ne_nil first rest

theorem piece_inlineObject {level : Nat} {entries : List (String × Expr)}
    (keys : ∀ entry ∈ entries, Piece entry.1.toList [])
    (each : ∀ entry ∈ entries, Piece (entry.2.emit level).toList []) :
    Piece ((inlineObject entries).emit level).toList [] := by
  have colon : Piece ": ".toList [] := Piece.plain rfl
  have inner : Piece (", ".intercalate (emitEntries level entries)).toList [] := by
    rw [emitEntries_eq_map]
    apply piece_intercalate (by decide)
    intro text isText
    obtain ⟨entry, isEntry, rfl⟩ := List.mem_map.mp isText
    rw [String.toList_append, String.toList_append]
    exact ((keys entry isEntry).append_closed colon).append_closed (each entry isEntry)
  cases entries with
  | nil =>
      rw [emit]
      exact Piece.nil.enclosed (c := '{') rfl rfl
  | cons first rest =>
      simpa [emit] using inner.braced

/-- An expression on one line is emitted as a piece. -/
theorem IsInline.piece {e : Expr} (inline : e.IsInline) (level : Nat) :
    Piece (e.emit level).toList [] := by
  induction inline with
  | identifier piece => exact piece
  | literal value => exact piece_quoteLiteral value
  | raw piece => exact piece
  | call piece types inline ih =>
      have arguments := (piece_emitArguments ih).enclosed (c := '(') rfl rfl
      have whole := (piece.append_closed (piece_typeArgumentList types)).append_closed arguments
      simpa [emit] using whole
  | construct piece inline ih =>
      have new : Piece "new ".toList [] := Piece.plain rfl
      have arguments := (piece_emitArguments ih).enclosed (c := '(') rfl rfl
      have whole := (new.append_closed piece).append_closed arguments
      simpa [emit] using whole
  | inlineObject keys inline ih => exact piece_inlineObject keys ih
  | member inline piece ih =>
      have dot : Piece ".".toList [] := Piece.plain rfl
      rw [emit, String.toList_append, String.toList_append]
      exact (ih.append_closed dot).append_closed piece
  | await inline ih =>
      have word : Piece "await ".toList [] := Piece.plain rfl
      rw [emit, String.toList_append]
      exact word.append_closed ih
  | not inline ih =>
      have sign : Piece "!".toList [] := Piece.plain rfl
      rw [emit, String.toList_append]
      exact sign.append_closed ih
  | binary operator inlineLeft inlineRight ihLeft ihRight =>
      have blank : Piece " ".toList [] := Piece.plain rfl
      have sign : Piece operator.sign.toList [] := by
        cases operator <;> exact Piece.plain rfl
      simp only [emit, String.toList_append]
      exact (((ihLeft.append_closed blank).append_closed sign).append_closed blank).append_closed
        ihRight
  | conditional inlineCondition inlineTrue inlineFalse ihCondition ihTrue ihFalse =>
      have question : Piece " ? ".toList [] := Piece.plain rfl
      have colon : Piece " : ".toList [] := Piece.plain rfl
      simp only [emit, String.toList_append]
      exact (((ihCondition.append_closed question).append_closed ihTrue).append_closed
        colon).append_closed ihFalse
  | parenthesized inline ih =>
      have whole := ih.enclosed (c := '(') rfl rfl
      simpa [emit] using whole
  | cast inline piece ih =>
      have word : Piece " as ".toList [] := Piece.plain rfl
      simp only [emit, String.toList_append]
      exact (ih.append_closed word).append_closed piece

theorem IsInline.callOf {callee : String} {arguments : List Expr} (piece : Piece callee.toList [])
    (inline : ∀ argument ∈ arguments, argument.IsInline) : (callOf callee arguments).IsInline :=
  .call piece (List.forall_mem_nil _) inline

/-! ## Objects of several lines -/

/-- An expression on one line that ends plainly, even where no comma follows. -/
structure IsValue (e : Expr) : Prop where
  inline : e.IsInline
  ends : ∀ level, EndsPlainly (e.emit level).toList

theorem IsValue.raw {code : String} (piece : Piece code.toList [])
    (ends : EndsPlainly code.toList) : (raw code).IsValue :=
  ⟨.raw piece, fun level => by rwa [emit]⟩

theorem IsValue.identifier {name : String} (piece : Piece name.toList [])
    (ends : EndsPlainly name.toList) : (identifier name).IsValue :=
  ⟨.identifier piece, fun level => by rwa [emit]⟩

theorem IsValue.literal (value : String) : (literal value).IsValue := by
  refine ⟨.literal value, fun level => ?_⟩
  rw [emit, Naming.quoteLiteral, String.toList_append]
  exact endsPlainly_append_singleton _

theorem IsValue.callOf {callee : String} {arguments : List Expr} (piece : Piece callee.toList [])
    (inline : ∀ argument ∈ arguments, argument.IsInline) : (callOf callee arguments).IsValue := by
  refine ⟨.callOf piece inline, fun level => ?_⟩
  rw [Expr.callOf, emit, String.toList_append]
  exact endsPlainly_append_singleton _

theorem IsValue.inlineObject {entries : List (String × Expr)}
    (keys : ∀ entry ∈ entries, Piece entry.1.toList [])
    (inline : ∀ entry ∈ entries, entry.2.IsInline) : (inlineObject entries).IsValue := by
  refine ⟨.inlineObject keys inline, fun level => ?_⟩
  cases entries with
  | nil =>
      rw [emit]
      exact (endsPlainly_of_getLast? rfl)
  | cons first rest =>
      rw [emit, String.toList_append]
      · exact EndsPlainly.prepend (endsPlainly_of_getLast? rfl) _
      · exact List.cons_ne_nil first rest

/-- An entry that can have a line of its own. -/
structure IsEntry (entry : String × Expr) : Prop where
  key : Naming.needsQuotes entry.1 = false
  value : entry.2.IsValue

/-- The line of an entry, up to the comma behind it. -/
def entryLine (level : Nat) (entry : String × Expr) : String :=
  indentation level ++ entry.1 ++ ": " ++ emit level entry.2

theorem emitLines_eq_map (level : Nat) (entries : List (String × Expr)) :
    emitLines level entries = entries.map (entryLine level) := by
  induction entries with
  | nil => rfl
  | cons entry rest ih => rw [emitLines, ih, List.map_cons, entryLine]

/-- The line of an entry, with or without the comma behind it. -/
theorem IsEntry.emitted {entry : String × Expr} (isEntry : IsEntry entry) (level : Nat)
    {comma : List Char} (isComma : comma = [] ∨ comma = [',']) :
    Emitted false level ((entryLine level entry).toList ++ comma ++ ['\n']) := by
  let text := entry.1.toList ++ (": ".toList ++ ((emit level entry.2).toList ++ comma))
  have isName := Naming.isName_of_needsQuotes_eq_false isEntry.key
  have colon : Piece ": ".toList [] := Piece.plain rfl
  have ending : Piece comma [] := by
    rcases isComma with rfl | rfl <;> exact Piece.plain rfl
  have value := isEntry.value.inline.piece level
  have piece : Piece text [] :=
    (piece_of_isName isName).append_closed (colon.append_closed (value.append_closed ending))
  have ends : EndsPlainly text := by
    refine (EndsPlainly.prepend ?_ _).prepend _
    rcases isComma with rfl | rfl
    · rw [List.append_nil]
      exact isEntry.value.ends level
    · exact endsPlainly_append_singleton _
  have noWord : StartsNoWord text :=
    StartsNoWord.append (Naming.all_isKeyPart_of_needsQuotes_eq_false isEntry.key)
      (startsNoWord_cons _)
  have line : Emitted false level ((indentation level).toList ++ text ++ ['\n']) :=
    Emitted.codeLine ⟨piece, (startsPlainly_of_isName isName).append _, ends,
      noWord.declarationFault?_eq_none⟩
  simpa [text, entryLine] using line

/-- The lines of an object's entries. -/
theorem emitted_emitLines {level : Nat} {entries : List (String × Expr)} (nonempty : entries ≠ [])
    (isEntry : ∀ entry ∈ entries, IsEntry entry) :
    Emitted false level ((",\n".intercalate (emitLines level entries)).toList ++ ['\n']) := by
  rw [emitLines_eq_map]
  induction entries with
  | nil => exact absurd rfl nonempty
  | cons entry rest ih =>
      have first := isEntry entry List.mem_cons_self
      cases rest with
      | nil =>
          rw [List.map_singleton, String.intercalate_singleton]
          simpa using first.emitted level (Or.inl rfl)
      | cons next rest =>
          have tail := ih (List.cons_ne_nil next rest) fun other member =>
            isEntry other (List.mem_cons_of_mem entry member)
          have head := first.emitted level (Or.inr rfl)
          rw [List.map_cons] at tail
          rw [List.map_cons, List.map_cons, String.intercalate_cons_cons]
          simpa using head.append tail

/-- A text whose first line opens a call and an object in it, and whose last line closes
both. -/
def Spreads (level : Nat) (head text : List Char) : Prop :=
  Piece head [.paren] ∧ ∃ body, Emitted false (level + 1) body ∧
    text = head ++ '{' :: '\n' :: body ++ ((indentation level).toList ++ ['}', ')'])

theorem Spreads.prepend {level : Nat} {before head text : List Char} (piece : Piece before [])
    (spreads : Spreads level head text) : Spreads level (before ++ head) (before ++ text) := by
  obtain ⟨opens, body, emitted, rfl⟩ := spreads
  exact ⟨piece.append opens, body, emitted, by simp⟩

/-- The arguments in front of the last one, each with its comma. -/
def frontArguments (level : Nat) (arguments : List Expr) : List Char :=
  arguments.flatMap fun argument => (argument.emit level).toList ++ [',', ' ']

theorem toList_emitArguments_append (level : Nat) (front : List Expr) (last : Expr) :
    (emitArguments level (front ++ [last])).toList =
      frontArguments level front ++ (last.emit level).toList := by
  induction front with
  | nil => rfl
  | cons first front ih =>
      have nonempty : front ++ [last] ≠ [] := by simp
      rw [List.cons_append, emitArguments, String.toList_append, String.toList_append, ih]
      · simp [frontArguments]
      · exact nonempty

/-- A call spreads over lines if its last argument does. -/
theorem spreads_call (callee : String) {typeArguments : List String} (front : List Expr)
    {entries : List (String × Expr)} (piece : Piece callee.toList [])
    (types : ∀ type ∈ typeArguments, Piece type.toList [])
    (inline : ∀ argument ∈ front, argument.IsInline) (nonempty : entries ≠ [])
    (isEntry : ∀ entry ∈ entries, IsEntry entry) (level : Nat) :
    Spreads level
      (callee.toList ++ (typeArgumentList typeArguments).toList ++
        '(' :: frontArguments level front)
      ((call callee typeArguments (front ++ [blockObject entries])).emit level).toList := by
  refine ⟨?_, _, emitted_emitLines nonempty isEntry, ?_⟩
  · have comma : Piece [',', ' '] [] := Piece.plain rfl
    have arguments : Piece (frontArguments level front) [] :=
      Piece.flatMap fun argument member =>
        ((inline argument member).piece level).append_closed comma
    have opening : Piece ('(' :: frontArguments level front) [.paren] :=
      (Piece.opening (c := '(') rfl).append arguments
    exact (piece.append_closed (piece_typeArgumentList types)).append opening
  · have object : (blockObject entries).emit level = "\x7b\n" ++
        ",\n".intercalate (emitLines (level + 1) entries) ++ "\n" ++
          indentation level ++ "\x7d" := by
      obtain ⟨first, rest, rfl⟩ := List.exists_cons_of_ne_nil nonempty
      rw [emit]
      exact List.cons_ne_nil first rest
    simp [emit, toList_emitArguments_append, object]

/-- An expression that can be the value of a statement. -/
def IsWritten (e : Expr) : Prop :=
  e.IsInline ∨ ∀ level, ∃ head, Spreads level head (e.emit level).toList

theorem IsWritten.await {operand : Expr} (written : operand.IsWritten) :
    (await operand).IsWritten := by
  have word : Piece "await ".toList [] := Piece.plain rfl
  rcases written with inline | spread
  · exact Or.inl (.await inline)
  · apply Or.inr
    intro level
    obtain ⟨head, spreads⟩ := spread level
    refine ⟨"await ".toList ++ head, ?_⟩
    rw [emit, String.toList_append]
    exact spreads.prepend word

/-- The lines of an expression that spreads, up to the semicolon. -/
theorem Spreads.emitted {arrow : Bool} {level place : Nat} {head text : List Char}
    (spreads : Spreads place head text) (starts : StartsPlainly head)
    (isCode : startsComment (head ++ ['{']) = false)
    (declares : declarationFault? (head ++ ['{']) = none) (isPlace : level + arrow.toNat = place) :
    Emitted arrow level ((indentation place).toList ++ text ++ [';', '\n']) := by
  obtain ⟨opens, body, emitted, rfl⟩ := spreads
  have brace : Piece ['{'] [.brace] := Piece.opening rfl
  have line : CodeLine (head ++ ['{']) [.brace, .paren] :=
    ⟨opens.append brace, starts.append _, endsPlainly_append_singleton head, declares⟩
  have isEnd : IsBlockEnd [';'] := Or.inr rfl
  have block := Emitted.block line isCode (List.cons_ne_nil _ _) isPlace emitted isEnd
  simpa [closersOf, Delimiter.closer?] using block

/-- A value behind the beginning of a statement. -/
theorem IsWritten.emitted {value : Expr} (written : value.IsWritten) {before : List Char}
    (piece : Piece before []) (starts : StartsPlainly before)
    (isCode : ∀ rest, startsComment (before ++ rest) = false)
    (declares : ∀ rest, declarationFault? (before ++ rest) = none) (level : Nat) :
    Emitted false level
      ((indentation level).toList ++ (before ++ (value.emit level).toList) ++ [';', '\n']) := by
  rcases written with inline | spread
  · have semicolon : Piece [';'] [] := Piece.plain rfl
    have ends : EndsPlainly (before ++ ((value.emit level).toList ++ [';'])) := by
      rw [← List.append_assoc]
      exact endsPlainly_append_singleton _
    have whole := piece.append_closed ((inline.piece level).append_closed semicolon)
    have line : Emitted false level ((indentation level).toList ++
        (before ++ ((value.emit level).toList ++ [';'])) ++ ['\n']) :=
      Emitted.codeLine ⟨whole, starts.append _, ends, declares _⟩
    simpa using line
  · obtain ⟨head, spreads⟩ := spread level
    have whole := Spreads.prepend piece spreads
    refine whole.emitted (starts.append head) ?_ ?_ (Nat.add_zero level)
    · rw [List.append_assoc]
      exact isCode _
    · rw [List.append_assoc]
      exact declares _

end Expr

end TypedClient.Code
