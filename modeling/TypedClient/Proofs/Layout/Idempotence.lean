/-
# Layout is idempotent

Laying out a text that layout has printed changes nothing. A second run goes
through the printed lines in step with the first run: after each of them its state
differs from that of the first run in line numbers at most. Blank lines that the
first run drops have no counterpart, and those it drops at the end of the text
would not have changed what is open.

The carriage return is excluded because one in front of a line feed belongs to the
line end: each reading of a template line would take one more away.
-/

import TypedClient.Proofs.Layout.Similar
import TypedClient.Proofs.Layout.Step
import TypedClient.Proofs.Text.Lines

namespace TypedClient.Layout

variable {tabWidth : Nat}

/-- Two states that differ at most in the numbers of lines. -/
structure State.Similar (first second : State) : Prop where
  scanner : first.scanner.Similar second.scanner
  printed : first.printed = second.printed
  afterArrow : first.afterArrow = second.afterArrow

variable {first second : State}

/-! ## The level of a line -/

theorem map_level_eq {stack stack' : List Frame}
    (frames : List.Forall₂ Frame.Similar stack stack') :
    stack.map (·.level) = stack'.map (·.level) := by
  induction frames with
  | nil => rfl
  | cons head _ ih => rw [List.map_cons, List.map_cons, head.level, ih]

/-- The level inside what is open, read off the levels alone. -/
theorem innerLevel_eq (stack : List Frame) :
    innerLevel stack = ((stack.map (·.level)).head?.map (· + 1)).getD 0 := by
  cases stack <;> rfl

/-- Line numbers have no part in the level of a line. -/
theorem levelOf_similar (similar : first.Similar second) (line : List Char) :
    levelOf first line = levelOf second line := by
  have levels := map_level_eq similar.scanner.frames
  have inner : innerLevel first.scanner.stack = innerLevel second.scanner.stack := by
    rw [innerLevel_eq, innerLevel_eq, levels]
  have height : first.scanner.stack.length = second.scanner.stack.length :=
    similar.scanner.frames.length_eq
  have frame (index : Nat) :
      (first.scanner.stack[index]?).map (·.level) =
        (second.scanner.stack[index]?).map (·.level) := by
    rw [← List.getElem?_map, ← List.getElem?_map, levels]
  unfold levelOf
  rw [inner, height, similar.scanner.comment, similar.afterArrow]
  simp only [frame]

/-! ## Printed lines read again -/

theorem isWhiteSpace_of_mem_padding {level : Nat} {inComment : Bool} {line : List Char} {c : Char}
    (member : c ∈ padding tabWidth level inComment line) : Text.isWhiteSpace c = true := by
  have blank : c = ' ' := by
    unfold padding at member
    rcases List.mem_append.mp member with inIndent | inStar
    · exact List.eq_of_mem_replicate inIndent
    · split at inStar
      · exact List.mem_singleton.mp inStar
      · cases inStar
  rw [blank]
  decide

/-- A line of a template literal is printed as it is, so it is read again alike. -/
theorem templateLine_again (similar : first.Similar second) (inside : first.scanner.inTemplate)
    {number : Nat} {line : List Char} {after : State}
    (stepped : templateLine first number line = .ok after) (number' : Nat) :
    ∃ after', step tabWidth second number' line = .ok after' ∧ after.Similar after' := by
  obtain ⟨scanner, scanned, rfl⟩ := templateLine_eq_ok_iff.mp stepped
  obtain ⟨scanner', scanned', similar'⟩ :=
    Scanner.scanLine_similar similar.scanner number number' 0 line scanned
  refine ⟨{ second with scanner := scanner', printed := line :: second.printed }, ?_, ?_⟩
  · rw [step_of_inTemplate (similar.scanner.inTemplate ▸ inside)]
    exact templateLine_eq_ok_iff.mpr ⟨scanner', scanned', rfl⟩
  · exact ⟨similar', congrArg (line :: ·) similar.printed, similar.afterArrow⟩

/-- A line of code is printed with padding, which reading it again takes away. -/
theorem codeLine_again (similar : first.Similar second)
    (outside : first.scanner.inTemplate = false) {number : Nat} {line : List Char} {after : State}
    (trimmed : Text.IsTrimmed line) (stepped : codeLine tabWidth first number line = .ok after)
    (number' : Nat) :
    ∃ after', step tabWidth second number'
        (padding tabWidth (levelOf first line) first.scanner.inComment line ++ line) = .ok after' ∧
      after.Similar after' := by
  obtain ⟨declares, scanner, scanned, rfl⟩ := codeLine_eq_ok_iff.mp stepped
  obtain ⟨scanner', scanned', similar'⟩ :=
    Scanner.scanLine_similar similar.scanner number number' (levelOf first line) line scanned
  have again : Text.trimList
      (padding tabWidth (levelOf first line) first.scanner.inComment line ++ line) = line :=
    Text.trimList_append_of_isTrimmed (fun _ => isWhiteSpace_of_mem_padding) trimmed
  have level := levelOf_similar similar line
  refine ⟨afterCode tabWidth second line scanner', ?_, ?_⟩
  · rw [step_of_not_inTemplate (similar.scanner.inTemplate ▸ outside), again,
      if_neg trimmed.nonempty]
    exact codeLine_eq_ok_iff.mpr
      ⟨similar.scanner.comment ▸ declares, scanner', level ▸ scanned', rfl⟩
  · refine ⟨similar', ?_, ?_⟩
    · simp only [afterCode, level, similar.scanner.comment, similar.printed]
    · simp only [afterCode, similar.scanner.comment, similar.afterArrow]

/-- The state of a run is reproduced if a run over what it has printed so far ends
in the same state, line numbers aside. -/
def Reproduced (tabWidth : Nat) (state : State) : Prop :=
  ∃ again, run tabWidth 1 {} state.printed.reverse = .ok again ∧ state.Similar again

/-- A printed line goes on reproducing the state. -/
theorem Reproduced.snoc {state after : State} {line : List Char}
    (reproduced : Reproduced tabWidth state) (printed : after.printed = line :: state.printed)
    (again : ∀ other number, state.Similar other →
      ∃ after', step tabWidth other number line = .ok after' ∧ after.Similar after') :
    Reproduced tabWidth after := by
  obtain ⟨other, ran, similar⟩ := reproduced
  obtain ⟨after', stepped, similar'⟩ := again other (1 + state.printed.reverse.length) similar
  refine ⟨after', ?_, similar'⟩
  rw [printed, List.reverse_cons, run_append_eq_ok_iff]
  exact ⟨other, ran, run_cons_eq_ok_iff.mpr ⟨after', stepped, rfl⟩⟩

/-- A blank line is either dropped or printed as an empty line. -/
theorem blankLine_cases (state : State) :
    blankLine state = state ∨ blankLine state = { state with printed := [] :: state.printed } := by
  unfold blankLine
  split <;> simp

theorem step_reproduced {state after : State} {number : Nat} {line : List Char}
    (reproduced : Reproduced tabWidth state)
    (stepped : step tabWidth state number line = .ok after) : Reproduced tabWidth after := by
  cases inside : state.scanner.inTemplate with
  | true =>
      rw [step_of_inTemplate inside] at stepped
      obtain ⟨scanner, -, afterEq⟩ := templateLine_eq_ok_iff.mp stepped
      have printed : after.printed = line :: state.printed := by rw [afterEq]
      apply reproduced.snoc printed
      intro other number' similar
      exact templateLine_again similar inside stepped number'
  | false =>
      rw [step_of_not_inTemplate inside] at stepped
      split at stepped
      · cases stepped
        rcases blankLine_cases state with dropped | kept
        · rwa [dropped]
        · have printed : (blankLine state).printed = [] :: state.printed := by rw [kept]
          apply reproduced.snoc printed
          intro other number' similar
          -- the second run drops an empty line exactly where the first one does
          refine ⟨blankLine other, ?_, ?_⟩
          · rw [step_of_not_inTemplate (similar.scanner.inTemplate ▸ inside)]
            rfl
          · unfold blankLine
            rw [← similar.printed]
            split
            · exact ⟨similar.scanner, by simp [similar.printed], similar.afterArrow⟩
            · exact similar
      · rename_i visible
        obtain ⟨-, scanner, -, afterEq⟩ := codeLine_eq_ok_iff.mp stepped
        apply reproduced.snoc (by rw [afterEq]; rfl)
        intro other number' similar
        exact codeLine_again similar inside (Text.isTrimmed_trimList visible) stepped number'

/-! ## Printed lines are lines -/

/-- A line without either sign of a line end. -/
def IsUnbroken (line : List Char) : Prop :=
  '\n' ∉ line ∧ '\r' ∉ line

theorem IsUnbroken.isLine {line : List Char} (unbroken : IsUnbroken line) : Text.IsLine line :=
  ⟨unbroken.1, fun last => unbroken.2 (List.mem_of_getLast? last)⟩

theorem IsUnbroken.padded {level : Nat} {inComment : Bool} {line : List Char}
    (unbroken : IsUnbroken line) :
    IsUnbroken (padding tabWidth level inComment line ++ line) := by
  have unpadded {c : Char} (absent : c ∉ line) (differs : c ≠ ' ') :
      c ∉ padding tabWidth level inComment line ++ line := by
    unfold padding
    simp only [List.mem_append, List.mem_replicate, absent, or_false, not_or, differs, and_false,
      not_false_eq_true, true_and]
    split <;> simp [differs]
  exact ⟨unpadded unbroken.1 (by decide), unpadded unbroken.2 (by decide)⟩

theorem IsUnbroken.trimmed {line : List Char} (unbroken : IsUnbroken line) :
    IsUnbroken (Text.trimList line) :=
  ⟨fun member => unbroken.1 (Text.mem_of_mem_trimList member),
    fun member => unbroken.2 (Text.mem_of_mem_trimList member)⟩

/-- The lines of a text without carriage returns have neither sign of a line end. -/
theorem isUnbroken_of_mem_lineLists {text line : List Char} (noReturn : '\r' ∉ text)
    (member : line ∈ Text.lineLists text) : IsUnbroken line := by
  constructor
  · intro inLine
    rcases Text.mem_linesFrom member inLine with inNil | ⟨-, differs⟩
    · cases inNil
    · exact differs rfl
  · intro inLine
    rcases Text.mem_linesFrom member inLine with inNil | ⟨inText, -⟩
    · cases inNil
    · exact noReturn inText

theorem step_printed_isUnbroken {state after : State} {number : Nat} {line : List Char}
    (unbroken : IsUnbroken line) (before : ∀ other ∈ state.printed, IsUnbroken other)
    (stepped : step tabWidth state number line = .ok after) :
    ∀ other ∈ after.printed, IsUnbroken other := by
  cases inside : state.scanner.inTemplate with
  | true =>
      rw [step_of_inTemplate inside] at stepped
      obtain ⟨scanner, -, rfl⟩ := templateLine_eq_ok_iff.mp stepped
      exact List.forall_mem_cons.mpr ⟨unbroken, before⟩
  | false =>
      rw [step_of_not_inTemplate inside] at stepped
      split at stepped
      · cases stepped
        rcases blankLine_cases state with dropped | kept
        · rwa [dropped]
        · rw [kept]
          exact List.forall_mem_cons.mpr ⟨⟨List.not_mem_nil, List.not_mem_nil⟩, before⟩
      · obtain ⟨-, scanner, -, rfl⟩ := codeLine_eq_ok_iff.mp stepped
        exact List.forall_mem_cons.mpr ⟨unbroken.trimmed.padded, before⟩

/-! ## Blank lines at the end -/

/-- An empty line leaves open what is open and adds at most itself to the text. -/
theorem step_empty {state after : State} {number : Nat}
    (stepped : step tabWidth state number [] = .ok after) :
    after.scanner = state.scanner ∧
      after.printed.dropWhile List.isEmpty = state.printed.dropWhile List.isEmpty := by
  cases inside : state.scanner.inTemplate with
  | true =>
      rw [step_of_inTemplate inside] at stepped
      obtain ⟨scanner, scanned, rfl⟩ := templateLine_eq_ok_iff.mp stepped
      cases scanned
      exact ⟨rfl, rfl⟩
  | false =>
      rw [step_of_not_inTemplate inside, if_pos (show Text.trimList [] = [] from rfl)] at stepped
      cases stepped
      rcases blankLine_cases state with dropped | kept
      · rw [dropped]
        exact ⟨rfl, rfl⟩
      · rw [kept]
        exact ⟨rfl, rfl⟩

theorem run_empty {lines : List (List Char)} (empty : ∀ line ∈ lines, line = [])
    {state after : State} {number : Nat} (ran : run tabWidth number state lines = .ok after) :
    after.scanner = state.scanner ∧
      after.printed.dropWhile List.isEmpty = state.printed.dropWhile List.isEmpty := by
  refine run_preserves (fun other => other.scanner = state.scanner ∧
      other.printed.dropWhile List.isEmpty = state.printed.dropWhile List.isEmpty) ?_ ⟨rfl, rfl⟩ ran
  intro line member before number next kept stepped
  rw [empty line member] at stepped
  obtain ⟨sameScanner, sameText⟩ := step_empty stepped
  exact ⟨sameScanner.trans kept.1, sameText.trans kept.2⟩

/-! ## The second run -/

/-- The lines of a printed text are the lines it was printed from, without the
empty ones at its end. The empty text still has its one line feed. -/
theorem lineLists_printedText {printed : List (List Char)}
    (unbroken : ∀ line ∈ printed, IsUnbroken line) :
    Text.lineLists (printedText printed) =
      if printed.dropWhile List.isEmpty = [] then [[]]
      else (printed.dropWhile List.isEmpty).reverse := by
  unfold printedText
  split
  · rename_i nothing
    rw [nothing]
    rfl
  · rename_i something
    have isLine : ∀ line ∈ (printed.dropWhile List.isEmpty).reverse, Text.IsLine line := by
      intro line member
      have inPrinted := (List.dropWhile_suffix List.isEmpty).subset (List.mem_reverse.mp member)
      exact (unbroken line inPrinted).isLine
    rw [Text.intercalate_append_newline (by simpa using something)]
    exact Text.lineLists_joinLines isLine

/-- A run over the lines of the printed text ends like the first run, up to empty
lines at the end of what is printed. -/
theorem run_printedText {last : State} (reproduced : Reproduced tabWidth last)
    (unbroken : ∀ line ∈ last.printed, IsUnbroken line) :
    ∃ again, run tabWidth 1 {} (Text.lineLists (printedText last.printed)) = .ok again ∧
      last.scanner.Similar again.scanner ∧
      again.printed.dropWhile List.isEmpty = last.printed.dropWhile List.isEmpty := by
  obtain ⟨other, ran, similar⟩ := reproduced
  have parts : last.printed.reverse =
      (last.printed.dropWhile List.isEmpty).reverse ++
        (last.printed.takeWhile List.isEmpty).reverse := by
    rw [← List.reverse_append, List.takeWhile_append_dropWhile]
  have empty : ∀ line ∈ (last.printed.takeWhile List.isEmpty).reverse, line = [] := by
    intro line member
    have isEmpty := List.mem_takeWhile_imp (List.mem_reverse.mp member)
    exact List.isEmpty_iff.mp isEmpty
  rw [parts, run_append_eq_ok_iff] at ran
  obtain ⟨again, ranText, ranEmpty⟩ := ran
  obtain ⟨sameScanner, sameText⟩ := run_empty empty ranEmpty
  rw [lineLists_printedText unbroken]
  split
  · rename_i nothing
    rw [nothing] at ranText
    cases ranText
    exact ⟨{}, rfl, sameScanner ▸ similar.scanner, by rw [← sameText, similar.printed]⟩
  · exact ⟨again, ranText, sameScanner ▸ similar.scanner, by rw [← sameText, similar.printed]⟩

theorem formatList_idempotent {text formatted : List Char} (noReturn : '\r' ∉ text)
    (accepted : formatList tabWidth text = .ok formatted) :
    formatList tabWidth formatted = .ok formatted := by
  obtain ⟨last, ran, closed, rfl⟩ := formatList_eq_ok_iff.mp accepted
  have reproduced : Reproduced tabWidth last :=
    run_preserves (Reproduced tabWidth) (fun _ _ _ _ _ => step_reproduced)
      ⟨{}, rfl, Scanner.Similar.refl _, rfl, rfl⟩ ran
  have unbroken : ∀ line ∈ last.printed, IsUnbroken line := by
    refine run_preserves (fun state => ∀ line ∈ state.printed, IsUnbroken line)
      ?_ (by simp) ran
    intro line member state number after before stepped
    exact step_printed_isUnbroken (isUnbroken_of_mem_lineLists noReturn member) before stepped
  obtain ⟨again, ranAgain, similar, sameText⟩ := run_printedText reproduced unbroken
  refine formatList_eq_ok_iff.mpr ⟨again, ranAgain, ?_, ?_⟩
  · rw [endFault?_eq_none_iff] at closed ⊢
    have frames := similar.frames
    rw [closed.1, List.forall₂_nil_left_iff] at frames
    exact ⟨frames, similar.comment ▸ closed.2⟩
  · unfold printedText
    rw [sameText]

end TypedClient.Layout

namespace TypedClient.Formatter

/-- The built-in formatter leaves alone what it has formatted. -/
theorem layout_idempotent (source : String) (language : Language) (style : FormatStyle)
    (noReturn : '\r' ∉ source.toList) (formatted : String)
    (accepted : layout source language style = .ok formatted) :
    layout formatted language style = .ok formatted := by
  unfold layout at accepted ⊢
  cases result : Layout.formatList style.tabWidth source.toList with
  | error fault => simp [result] at accepted
  | ok text =>
      rw [result] at accepted
      cases accepted
      rw [String.toList_ofList, Layout.formatList_idempotent noReturn result]

/-- A source with an arrow, an interpolation over several lines, a comment and
blank lines. -/
def sampleSource : String :=
  "const f = x =>\n\ng(\x60 a  $\x7b\n\n\nx \x7d\n  b\x60,\n/* c\n* d */ x)\n\n\n"

/-- The sample as it is laid out. -/
def sampleLayout : String :=
  "const f = x =>\n\n  g(\x60 a  $\x7b\n\n    x \x7d\n  b\x60,\n    /* c\n     * d */ x)\n"

theorem layout_idempotent_sample :
    layout sampleSource .typeScript {} = .ok sampleLayout ∧
      layout sampleLayout .typeScript {} = .ok sampleLayout :=
  ⟨rfl, layout_idempotent sampleSource .typeScript {} (by decide) sampleLayout rfl⟩

end TypedClient.Formatter
