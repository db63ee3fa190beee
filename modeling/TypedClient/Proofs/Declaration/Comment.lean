/-
# Emitted comments

Guarding a description leaves no end sign of a comment in it, whatever it says, and
neither does cutting it into lines. So a comment ends where it is meant to, and layout
keeps its lines.
-/

import TypedClient.Declaration.Comment
import TypedClient.Proofs.Layout.Emitted
import TypedClient.Request.Signature

namespace TypedClient

open Code (indentation)
open Layout

/-! ## Guarded texts -/

namespace Comment

/-- What guarding writes in place of an end sign holds no end sign, and none comes about
where the writing meets the text around it. -/
theorem noEnd_replaceFrom (skip : Nat) (text : List Char) :
    ¬ ['*', '/'] <:+: Text.replaceFrom ['*', '/'] ['*', '\\', '/'] skip text := by
  have starts : ∀ text : List Char,
      (Text.replaceFrom ['*', '/'] ['*', '\\', '/'] 0 text).head? = some '/' →
        text.head? = some '/' := by
    intro text slash
    cases text with
    | nil => exact slash
    | cons c rest =>
        rw [Text.replaceFrom] at slash
        split at slash
        · exact absurd slash (by simp)
        · exact slash
  fun_induction Text.replaceFrom ['*', '/'] ['*', '\\', '/'] skip text with
  | case1 skip => simp
  | case2 skip c rest ih => exact ih
  | case3 c rest occurs ih =>
      simp only [List.cons_append, List.nil_append, List.infix_cons_iff]
      rintro (inStar | inBackslash | inSlash | inRest)
      · simp at inStar
      · simp at inBackslash
      · simp at inSlash
      · exact ih inRest
  | case4 c rest absent ih =>
      rw [List.infix_cons_iff]
      rintro (atStart | inRest)
      · obtain ⟨tail, same⟩ := atStart
        obtain ⟨rfl, inRest⟩ := List.cons.inj same
        have slash : rest.head? = some '/' := starts rest (by rw [← inRest]; rfl)
        obtain ⟨after, rfl⟩ := List.head?_eq_some_iff.mp slash
        exact absent rfl
      · exact ih inRest

theorem noEnd_guard (text : String) : ¬ ['*', '/'] <:+: (guard text).toList := by
  rw [guard, Text.replaceAll, String.toList_ofList]
  exact noEnd_replaceFrom 0 text.toList

/-- A line of a guarded text can stand in a comment. -/
theorem commentBody_of_mem_lines {text line : String} (noEnd : ¬ ['*', '/'] <:+: text.toList)
    (member : line ∈ Text.lines text) : CommentBody line.toList := by
  obtain ⟨chars, inLines, rfl⟩ := List.mem_map.mp member
  rw [String.toList_ofList]
  refine ⟨fun feed => ?_, fun inside => noEnd (inside.trans (Text.infix_of_mem_lineLists inLines))⟩
  rcases Text.mem_linesFrom inLines feed with inNone | ⟨-, differs⟩
  · cases inNone
  · exact differs rfl

/-! ## Comments in front of declarations -/

/-- What stands behind the star of a line. -/
theorem commentBody_star {text : List Char} (body : CommentBody text) :
    CommentBody ('*' :: ' ' :: text) := by
  refine ⟨fun member => ?_, ?_⟩
  · simp only [List.mem_cons] at member
    rcases member with isStar | isBlank | inText
    · exact absurd isStar (by decide)
    · exact absurd isBlank (by decide)
    · exact body.noFeed inText
  · rw [List.infix_cons_iff, List.infix_cons_iff]
    rintro (atStar | atBlank | inText)
    · simp at atStar
    · simp at atBlank
    · exact body.noEnd inText

/-- A comment on one line. -/
theorem emitted_single {text : List Char} (body : CommentBody text) (level : Nat) :
    Emitted false level
      ((indentation level).toList ++ "/** ".toList ++ text ++ " */\n".toList) := by
  let comment := '/' :: '*' :: (('*' :: ' ' :: text) ++ [' ', '*', '/'])
  have ends : EndsPlainly comment :=
    EndsPlainly.prepend (endsPlainly_of_getLast? rfl) ('/' :: '*' :: ('*' :: ' ' :: text))
  have noWord : StartsNoWord comment := startsNoWord_cons _
  have line : Emitted false level ((indentation level).toList ++ comment ++ ['\n']) :=
    Emitted.codeLine ⟨(commentBody_star body).piece, startsPlainly_cons _, ends,
      noWord.declarationFault?_eq_none⟩
  simpa [comment] using line

/-- A comment of several lines, each behind a star. -/
theorem emitted_several {level : Nat} {lines : List (List Char)}
    (each : ∀ rest ∈ lines, CommentBody ('*' :: rest))
    (noReturn : ∀ rest ∈ lines, rest.getLast? ≠ some '\r') :
    Emitted false level ((indentation level).toList ++ "/**\n".toList ++
      lines.flatMap (fun rest => starred level rest ++ ['\n']) ++
      ((indentation level).toList ++ " */\n".toList)) := by
  have comment : Emitted false level (Text.joinLines (commentLines level lines)) :=
    Emitted.comment each noReturn
  simpa [Layout.commentLines, Text.joinLines, starred, List.flatMap_map] using comment

/-- A trimmed line does not end in a carriage return. -/
theorem getLast?_trimEnd_ne (line : String) :
    (' ' :: (Text.trimEnd line).toList).getLast? ≠ some '\r' := by
  rw [Text.trimEnd, String.toList_ofList]
  intro last
  by_cases nonempty : Text.trimEndList line.toList = []
  · rw [nonempty] at last
    exact absurd last (by decide)
  · have visible := List.rdropWhile_last_not Text.isWhiteSpace line.toList nonempty
    rw [← List.singleton_append, List.getLast?_append_of_ne_nil _ nonempty,
      List.getLast?_eq_some_getLast nonempty] at last
    exact visible (Option.some.inj last ▸ rfl)

theorem toList_starLine (level : Nat) (line : String) :
    (starLine (indentation level) line).toList = starred level (' ' :: line.toList) ++ ['\n'] := by
  simp [starLine, starred]

theorem commentBody_trimEnd {line : String} (body : CommentBody line.toList) :
    CommentBody (Text.trimEnd line).toList := by
  rw [Text.trimEnd, String.toList_ofList]
  exact body.trimEndList

/-- The doc comment of a declaration is kept, whatever the description is. -/
theorem emitted_block (level : Nat) (description? : Option String) :
    Emitted false level (block (indentation level) description?).toList := by
  unfold block
  split
  · exact Emitted.nil
  · rename_i content found
    simp only
    have noEnd := noEnd_guard content
    split
    · have each : ∀ rest ∈ (Text.lines (guard content)).map fun line =>
          ' ' :: (Text.trimEnd line).toList, CommentBody ('*' :: rest) := by
        intro rest isRest
        obtain ⟨line, isLine, rfl⟩ := List.mem_map.mp isRest
        exact commentBody_star (commentBody_trimEnd (commentBody_of_mem_lines noEnd isLine))
      have noReturn : ∀ rest ∈ (Text.lines (guard content)).map fun line =>
          ' ' :: (Text.trimEnd line).toList, rest.getLast? ≠ some '\r' := by
        intro rest isRest
        obtain ⟨line, -, rfl⟩ := List.mem_map.mp isRest
        exact getLast?_trimEnd_ne line
      have several : Emitted false level _ := emitted_several each noReturn
      simpa [trimmedLines, List.flatMap_map, toList_starLine] using several
    · rename_i oneLine
      have body : CommentBody (guard content).toList :=
        ⟨fun feed => oneLine (List.contains_iff_mem.mpr feed), noEnd⟩
      simpa using emitted_single body level

end Comment

/-! ## Comments in front of request functions -/

namespace Request

theorem commentBody_of_mem_proseLines {text? : Option String} {line : String}
    (member : line ∈ proseLines text?) : CommentBody line.toList := by
  unfold proseLines at member
  split at member
  · split at member
    · cases member
    · exact Comment.commentBody_of_mem_lines (Comment.noEnd_guard _) member
  · cases member

theorem commentBody_of_mem_commentLines {operation : Operation} {arguments : Arguments}
    {returnType line : String}
    (member : line ∈ commentLines operation .typeScript arguments returnType) :
    CommentBody line.toList := by
  simp only [commentLines, List.mem_append, List.not_mem_nil, or_false] at member
  rcases member with (inSummary | inDescription) | isDeprecated
  · exact commentBody_of_mem_proseLines inSummary
  · split at inDescription
    · cases inDescription
    · exact commentBody_of_mem_proseLines inDescription
  · split at isDeprecated
    · rw [List.mem_singleton.mp isDeprecated]
      exact ⟨by decide, fun inside => absurd (inside.subset List.mem_cons_self) (by decide)⟩
    · cases isDeprecated

/-- The text behind the star of a line. -/
def behindStar (line : String) : List Char :=
  if Text.isBlank line then [] else ' ' :: (Text.trimEnd line).toList

theorem toList_commentLine (line : String) :
    (commentLine line).toList = starred 0 (behindStar line) ++ ['\n'] := by
  unfold commentLine behindStar
  split
  · rfl
  · exact Comment.toList_starLine 0 (Text.trimEnd line)

/-- The comment of a request function is kept. -/
theorem emitted_comment {lines : List String} (each : ∀ line ∈ lines, CommentBody line.toList) :
    Emitted false 0 (comment .typeScript lines).toList := by
  match lines with
  | [] => exact Emitted.nil
  | [line] =>
      have single := Comment.emitted_single (each line List.mem_cons_self) 0
      simpa [comment, toList_indentation] using single
  | first :: second :: rest =>
      have eachStar : ∀ text ∈ (first :: second :: rest).map behindStar,
          CommentBody ('*' :: text) := by
        intro text isText
        obtain ⟨line, isLine, rfl⟩ := List.mem_map.mp isText
        unfold behindStar
        split
        · exact ⟨by decide, by decide⟩
        · exact Comment.commentBody_star (Comment.commentBody_trimEnd (each line isLine))
      have noReturn : ∀ text ∈ (first :: second :: rest).map behindStar,
          text.getLast? ≠ some '\r' := by
        intro text isText
        obtain ⟨line, -, rfl⟩ := List.mem_map.mp isText
        unfold behindStar
        split
        · decide
        · exact Comment.getLast?_trimEnd_ne line
      have several : Emitted false 0 _ := Comment.emitted_several eachStar noReturn
      simpa [comment, toList_commentLine, List.flatMap_map, toList_indentation] using several

end Request

end TypedClient
