/-
# Emitted text

Text that consists of whole lines and is kept by layout. The emitters put texts one
after the other and texts around others, so what is said here of lines is said again
of the texts that they make up.
-/

import TypedClient.Proofs.Layout.Stretch

namespace TypedClient.Layout

open Code (indentation)

/-- Text of whole lines that layout keeps at some level, perhaps after an arrow. -/
def Emitted (arrow : Bool) (level : Nat) (text : List Char) : Prop :=
  ∃ lines, text = Text.joinLines lines ∧ (∀ line ∈ lines, Text.IsLine line) ∧
    LaidOut arrow level lines

namespace Emitted

variable {arrow : Bool} {level : Nat}

theorem nil : Emitted false level [] :=
  ⟨[], rfl, fun _ member => absurd member List.not_mem_nil, laidOut_nil⟩

theorem append {first second : List Char} (head : Emitted arrow level first)
    (tail : Emitted false level second) : Emitted arrow level (first ++ second) := by
  obtain ⟨lines, rfl, isLine, laidOut⟩ := head
  obtain ⟨others, rfl, isLine', laidOut'⟩ := tail
  refine ⟨lines ++ others, (Text.joinLines_append lines others).symm, ?_, laidOut.append laidOut'⟩
  exact fun line member => (List.mem_append.mp member).elim (isLine line) (isLine' line)

theorem flatMap {α : Type} {items : List α} {text : α → List Char}
    (each : ∀ item ∈ items, Emitted false level (text item)) :
    Emitted false level (items.flatMap text) := by
  induction items with
  | nil => exact nil
  | cons item items ih =>
      rw [List.flatMap_cons]
      exact (each item List.mem_cons_self).append
        (ih fun other member => each other (List.mem_cons_of_mem item member))

/-- A text behind its indentation is a line. -/
theorem isLine_indentation {text : List Char} (noFeed : '\n' ∉ text)
    (trimmed : Text.IsTrimmed text) (level : Nat) :
    Text.IsLine ((indentation level).toList ++ text) := by
  refine ⟨fun member => ?_, fun last => ?_⟩
  · rcases List.mem_append.mp member with inIndentation | inText
    · rw [toList_indentation] at inIndentation
      exact absurd (List.eq_of_mem_replicate inIndentation) (by decide)
    · exact noFeed inText
  · rw [List.getLast?_append_of_ne_nil _ trimmed.nonempty] at last
    exact absurd (trimmed.last '\r' last) (by decide)

/-- One line of code. -/
theorem line {text : List Char} (code : CodeText text []) (noArrow : endsInArrow text = false) :
    Emitted false level ((indentation level).toList ++ text ++ ['\n']) := by
  refine ⟨[(indentation level).toList ++ text], by simp, fun line member => ?_,
    LaidOut.line code noArrow⟩
  rw [List.mem_singleton.mp member]
  exact isLine_indentation code.noFeed code.trimmed level

theorem codeLine {text : List Char} (isLine : CodeLine text []) :
    Emitted false level ((indentation level).toList ++ text ++ ['\n']) :=
  line isLine.codeText isLine.ends.endsInArrow_eq_false

/-- A text below a line that ends in an arrow. -/
theorem belowArrow {text below : List Char} (code : CodeText text [])
    (isCode : startsComment text = false) (isArrow : endsInArrow text = true)
    (emitted : Emitted true level below) :
    Emitted false level ((indentation level).toList ++ text ++ '\n' :: below) := by
  obtain ⟨lines, rfl, isLine, laidOut⟩ := emitted
  refine ⟨((indentation level).toList ++ text) :: lines, by simp, ?_,
    laidOut.belowArrow code isCode isArrow⟩
  exact List.forall_mem_cons.mpr
    ⟨isLine_indentation code.noFeed code.trimmed level, isLine⟩

/-- A text between lines that open and close the same delimiters. -/
theorem block {head text body : List Char} {delimiters : List Delimiter} {place : Nat}
    (opens : CodeLine head delimiters) (isCode : startsComment head = false)
    (nonempty : delimiters ≠ []) (isPlace : level + arrow.toNat = place)
    (inside : Emitted false (place + 1) body) (isEnd : IsBlockEnd text) :
    Emitted arrow level ((indentation place).toList ++ head ++ '\n' :: body ++
      ((indentation place).toList ++ closersOf delimiters ++ text ++ ['\n'])) := by
  obtain ⟨lines, rfl, isLine, laidOut⟩ := inside
  have code := opens.codeText
  refine ⟨_, ?_, ?_,
    laidOut.block code isCode opens.ends.endsInArrow_eq_false nonempty isPlace isEnd⟩
  · simp
  · have closing := isTrimmed_closing code.code nonempty isEnd
    have noFeed : '\n' ∉ closersOf delimiters ++ text := by
      intro member
      rcases List.mem_append.mp member with inClosers | inText
      · exact absurd (isCloser_of_mem_closersOf inClosers) (by decide)
      · rcases isEnd with rfl | rfl <;> simp at inText
    refine List.forall_mem_cons.mpr
      ⟨isLine_indentation code.noFeed code.trimmed place, fun line member => ?_⟩
    rcases List.mem_append.mp member with inBody | isClosing
    · exact isLine line inBody
    · rw [List.mem_singleton.mp isClosing]
      exact isLine_indentation noFeed closing place

theorem isLine_starred {rest : List Char} (noFeed : '\n' ∉ rest)
    (noReturn : rest.getLast? ≠ some '\r') (level : Nat) : Text.IsLine (starred level rest) := by
  refine ⟨fun member => ?_, fun last => ?_⟩
  · rcases List.mem_append.mp member with inIndentation | inText
    · rw [toList_indentation] at inIndentation
      exact absurd (List.eq_of_mem_replicate inIndentation) (by decide)
    · simp [noFeed] at inText
  · rw [starred, List.getLast?_append_of_ne_nil _ (List.cons_ne_nil _ _),
      List.getLast?_cons_cons, List.getLast?_cons] at last
    cases isLast : rest.getLast? with
    | none =>
        rw [isLast] at last
        exact absurd last (by decide)
    | some c =>
        rw [isLast] at last
        exact noReturn (isLast.trans last)

/-- A comment of several lines. -/
theorem comment {lines : List (List Char)} (each : ∀ rest ∈ lines, CommentBody ('*' :: rest))
    (noReturn : ∀ rest ∈ lines, rest.getLast? ≠ some '\r') :
    Emitted false level (Text.joinLines (commentLines level lines)) := by
  refine ⟨_, rfl, ?_, LaidOut.comment each⟩
  have first : Text.IsLine ((indentation level).toList ++ ['/', '*', '*']) :=
    isLine_indentation (by decide) isTrimmed_commentOpening level
  refine List.forall_mem_cons.mpr ⟨first, fun line member => ?_⟩
  rcases List.mem_append.mp member with inLines | isLast
  · obtain ⟨rest, isRest, rfl⟩ := List.mem_map.mp inLines
    have noFeed : '\n' ∉ rest := fun feed =>
      (each rest isRest).noFeed (List.mem_cons_of_mem _ feed)
    exact isLine_starred noFeed (noReturn rest isRest) level
  · rw [List.mem_singleton.mp isLast]
    exact isLine_starred (by decide) (by decide) level

end Emitted

end TypedClient.Layout
