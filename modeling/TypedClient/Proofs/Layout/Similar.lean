/-
# Scanning does not depend on line numbers

The line a delimiter was opened on is kept for messages only. Two scanners that
differ in such numbers alone accept the same lines and stay alike, whatever the
numbers of these lines are.
-/

import Mathlib.Data.List.Forall2
import TypedClient.Layout.Format

namespace TypedClient.Layout

/-- Two frames that differ at most in the line they were opened on. -/
structure Frame.Similar (first second : Frame) : Prop where
  delimiter : first.delimiter = second.delimiter
  level : first.level = second.level

namespace Scanner

/-- Two scanners that differ at most in the numbers of lines. -/
structure Similar (first second : Scanner) : Prop where
  frames : List.Forall₂ Frame.Similar first.stack second.stack
  comment : first.inComment = second.inComment

namespace Similar

variable {first second : Scanner}

theorem refl (scanner : Scanner) : scanner.Similar scanner :=
  ⟨List.forall₂_same.mpr fun _ _ => ⟨rfl, rfl⟩, rfl⟩

theorem inTemplate (similar : first.Similar second) :
    first.inTemplate = second.inTemplate := by
  obtain ⟨stack, inComment⟩ := first
  obtain ⟨stack', inComment'⟩ := second
  cases similar.frames with
  | nil => rfl
  | cons head _ => simp only [Scanner.inTemplate, head.delimiter]

theorem push (similar : first.Similar second) (delimiter : Delimiter) (line line' level : Nat) :
    (first.push ⟨delimiter, line, level⟩).Similar (second.push ⟨delimiter, line', level⟩) :=
  ⟨.cons ⟨rfl, rfl⟩ similar.frames, similar.comment⟩

theorem pop (similar : first.Similar second) : first.pop.Similar second.pop := by
  obtain ⟨stack, inComment⟩ := first
  obtain ⟨stack', inComment'⟩ := second
  refine ⟨?_, similar.comment⟩
  cases similar.frames with
  | nil => exact .nil
  | cons _ tail => exact tail

theorem setComment (similar : first.Similar second) (inComment : Bool) :
    Similar { first with inComment } { second with inComment } :=
  ⟨similar.frames, rfl⟩

/-- A closing bracket that fits fits in a similar scanner. -/
theorem close (similar : first.Similar second) {closer : Char} {after : Scanner}
    (closed : first.close closer = .ok after) :
    ∃ after', second.close closer = .ok after' ∧ after.Similar after' := by
  obtain ⟨stack, inComment⟩ := first
  obtain ⟨stack', inComment'⟩ := second
  cases similar.frames with
  | nil => cases closed
  | cons head tail =>
      simp only [Scanner.close, head.delimiter] at closed ⊢
      split at closed
      · rename_i fits
        cases closed
        exact ⟨_, if_pos fits, tail, similar.comment⟩
      · cases closed

end Similar

/-! ## One character -/

/-- Outcomes of a character that are similar or fail together. -/
def SimilarStep (first second : Except Fault (Scanner × Mode)) : Prop :=
  ∀ after mode, first = .ok (after, mode) →
    ∃ after', second = .ok (after', mode) ∧ after.Similar after'

variable {first second : Scanner}

theorem SimilarStep.ok (similar : first.Similar second) (mode : Mode) :
    SimilarStep (.ok (first, mode)) (.ok (second, mode)) := by
  rintro after mode' ⟨⟩
  exact ⟨second, rfl, similar⟩

theorem SimilarStep.close (similar : first.Similar second) (c : Char) :
    SimilarStep ((first.close c).map (·, .plain)) ((second.close c).map (·, .plain)) := by
  intro after mode closed
  cases result : first.close c with
  | error fault => rw [result] at closed; cases closed
  | ok inner =>
      rw [result] at closed
      cases closed
      obtain ⟨inner', result', similar'⟩ := similar.close result
      exact ⟨inner', by rw [result']; rfl, similar'⟩

theorem feedCode_similar (similar : first.Similar second) (line line' level : Nat) (c : Char) :
    SimilarStep (first.feedCode line level c) (second.feedCode line' level c) := by
  unfold feedCode
  split
  · exact .ok similar _
  · exact .ok similar _
  · exact .ok similar _
  · exact .ok (similar.push _ _ _ _) _
  · cases Delimiter.opened? c with
    | some delimiter => exact .ok (similar.push _ _ _ _) _
    | none =>
        by_cases closes : isCloser c
        · simp only [closes, if_true]
          exact .close similar c
        · simp only [closes]
          exact .ok similar _

theorem feedTemplate_similar (similar : first.Similar second) (c : Char) :
    SimilarStep (.ok (first.feedTemplate c)) (.ok (second.feedTemplate c)) := by
  unfold feedTemplate
  split
  · exact .ok similar _
  · exact .ok similar.pop _
  · exact .ok similar _
  · exact .ok similar _

theorem feed_similar (similar : first.Similar second) (line line' level : Nat) (mode : Mode)
    (c : Char) :
    SimilarStep (feed line level (first, mode) c) (feed line' level (second, mode) c) := by
  cases mode with
  | plain =>
      simp only [feed, similar.comment, similar.inTemplate]
      split
      · exact .ok similar _
      · split
        · exact feedTemplate_similar similar c
        · exact feedCode_similar similar line line' level c
  | afterSlash =>
      simp only [feed]
      split
      · exact .ok similar _
      · split
        · exact .ok (similar.setComment true) _
        · exact feedCode_similar similar line line' level c
  | lineComment => exact .ok similar _
  | string quote => exact .ok similar _
  | stringEscape quote => exact .ok similar _
  | templateEscape => exact .ok similar _
  | afterDollar =>
      simp only [feed]
      split
      · exact .ok (similar.push _ _ _ _) _
      · exact feedTemplate_similar similar c
  | afterStar =>
      simp only [feed]
      split
      · exact .ok (similar.setComment false) _
      · exact .ok similar _

/-! ## One line -/

theorem foldlM_feed_similar (similar : first.Similar second) (line line' level : Nat)
    (mode : Mode) (text : List Char) :
    SimilarStep (text.foldlM (feed line level) (first, mode))
      (text.foldlM (feed line' level) (second, mode)) := by
  induction text generalizing first second mode with
  | nil => exact .ok similar mode
  | cons c rest ih =>
      intro after mode' scanned
      rw [List.foldlM_cons] at scanned ⊢
      cases fed : feed line level (first, mode) c with
      | error fault => rw [fed] at scanned; cases scanned
      | ok result =>
          obtain ⟨inner, innerMode⟩ := result
          obtain ⟨inner', fed', similar'⟩ := feed_similar similar line line' level mode c _ _ fed
          rw [fed] at scanned
          rw [fed']
          exact ih similar' innerMode after mode' scanned

/-- A line that one scanner accepts is accepted by a similar one, under any
number. -/
theorem scanLine_similar (similar : first.Similar second) (line line' level : Nat)
    (text : List Char) {after : Scanner} (scanned : first.scanLine line level text = .ok after) :
    ∃ after', second.scanLine line' level text = .ok after' ∧ after.Similar after' := by
  unfold scanLine at scanned ⊢
  cases folded : text.foldlM (feed line level) (first, .plain) with
  | error fault => rw [folded] at scanned; cases scanned
  | ok result =>
      obtain ⟨inner, mode⟩ := result
      obtain ⟨inner', folded', similar'⟩ :=
        foldlM_feed_similar similar line line' level .plain text _ _ folded
      rw [folded] at scanned
      rw [folded']
      cases mode <;> cases scanned <;> exact ⟨inner', rfl, similar'⟩

end Scanner

end TypedClient.Layout
