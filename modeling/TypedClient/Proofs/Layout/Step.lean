/-
# One line and a run of lines

What layout does with a line that it accepts, said as equivalences, so that later
proofs take a run apart and put it together without opening the definitions.
-/

import TypedClient.Layout.Format

namespace TypedClient.Layout

variable {tabWidth number : Nat} {state after : State} {line : List Char}

/-- The state after a line of code or comment, given what the line leaves open. -/
def afterCode (tabWidth : Nat) (state : State) (line : List Char) (scanner : Scanner) : State :=
  { scanner
    printed :=
      (padding tabWidth (levelOf state line) state.scanner.inComment line ++ line) ::
        state.printed
    afterArrow :=
      if state.scanner.inComment || startsComment line then state.afterArrow
      else endsInArrow line }

/-- A line of a template literal is accepted if it scans, and is printed as it is. -/
theorem templateLine_eq_ok_iff :
    templateLine state number line = .ok after ↔
      ∃ scanner, state.scanner.scanLine number 0 line = .ok scanner ∧
        after = { state with scanner, printed := line :: state.printed } := by
  unfold templateLine
  cases state.scanner.scanLine number 0 line with
  | error fault => simp [bind, Except.bind]
  | ok scanner => simp [bind, Except.bind, eq_comm]

/-- A line of code or comment is checked for what it declares and then scanned. -/
theorem codeLine_eq :
    codeLine tabWidth state number line =
      match if state.scanner.inComment then none else declarationFault? line with
      | some fault => .error fault
      | none =>
          (state.scanner.scanLine number (levelOf state line) line).map
            (afterCode tabWidth state line) := by
  unfold codeLine afterCode
  cases state.scanner.inComment <;> cases declarationFault? line <;> rfl

/-- A line of code or comment is accepted if it scans at its level and, outside
comments, declares nothing that is no identifier. -/
theorem codeLine_eq_ok_iff :
    codeLine tabWidth state number line = .ok after ↔
      (state.scanner.inComment = false → declarationFault? line = none) ∧
        ∃ scanner, state.scanner.scanLine number (levelOf state line) line = .ok scanner ∧
          after = afterCode tabWidth state line scanner := by
  rw [codeLine_eq]
  have mapped : (state.scanner.scanLine number (levelOf state line) line).map
        (afterCode tabWidth state line) = .ok after ↔
      ∃ scanner, state.scanner.scanLine number (levelOf state line) line = .ok scanner ∧
        after = afterCode tabWidth state line scanner := by
    cases state.scanner.scanLine number (levelOf state line) line with
    | error fault => simp [Except.map]
    | ok scanner => simp [Except.map, eq_comm]
  cases state.scanner.inComment <;> cases declarationFault? line <;> simp [mapped]

/-- A line outside template literals is blank or goes on as code. -/
theorem step_of_not_inTemplate (outside : state.scanner.inTemplate = false) :
    step tabWidth state number line =
      if Text.trimList line = [] then .ok (blankLine state)
      else codeLine tabWidth state number (Text.trimList line) := by
  unfold step
  rw [outside]
  cases Text.trimList line <;> simp

theorem step_of_inTemplate (inside : state.scanner.inTemplate = true) :
    step tabWidth state number line = templateLine state number line := by
  simp [step, inside]

/-! ## Runs -/

theorem run_cons_eq_ok_iff {rest : List (List Char)} :
    run tabWidth number state (line :: rest) = .ok after ↔
      ∃ next, step tabWidth state number line = .ok next ∧
        run tabWidth (number + 1) next rest = .ok after := by
  rw [run]
  cases step tabWidth state number line <;> simp

/-- A run over two stretches is a run over the first and then over the second. -/
theorem run_append_eq_ok_iff {first second : List (List Char)} :
    run tabWidth number state (first ++ second) = .ok after ↔
      ∃ next, run tabWidth number state first = .ok next ∧
        run tabWidth (number + first.length) next second = .ok after := by
  induction first generalizing number state with
  | nil => simp [run]
  | cons line rest ih =>
      rw [List.cons_append, run_cons_eq_ok_iff]
      simp only [run_cons_eq_ok_iff, ih, List.length_cons, Nat.add_assoc, Nat.add_comm 1]
      constructor
      · rintro ⟨mid, stepped, next, ran, finished⟩
        exact ⟨next, ⟨mid, stepped, ran⟩, finished⟩
      · rintro ⟨next, ⟨mid, stepped, ran⟩, finished⟩
        exact ⟨mid, stepped, next, ran, finished⟩

/-- What every accepted line preserves holds after a run. -/
theorem run_preserves (Invariant : State → Prop) {lines : List (List Char)}
    (preserved : ∀ line ∈ lines, ∀ state number after, Invariant state →
      step tabWidth state number line = .ok after → Invariant after)
    (start : Invariant state) (ran : run tabWidth number state lines = .ok after) :
    Invariant after := by
  induction lines generalizing number state with
  | nil =>
      cases ran
      exact start
  | cons line rest ih =>
      obtain ⟨next, stepped, ranRest⟩ := run_cons_eq_ok_iff.mp ran
      have kept := preserved line List.mem_cons_self state number next start stepped
      exact ih (fun other member => preserved other (List.mem_cons_of_mem line member)) kept ranRest

/-- A text is laid out if its lines run through and leave nothing open. -/
theorem formatList_eq_ok_iff {text formatted : List Char} :
    formatList tabWidth text = .ok formatted ↔
      ∃ last, run tabWidth 1 {} (Text.lineLists text) = .ok last ∧
        endFault? last.scanner = none ∧ formatted = printedText last.printed := by
  unfold formatList
  cases run tabWidth 1 {} (Text.lineLists text) with
  | error fault => simp [bind, Except.bind]
  | ok last =>
      cases fault : endFault? last.scanner <;> simp [bind, Except.bind, fault, eq_comm]

/-- Nothing is open at the end exactly outside delimiters and comments. -/
theorem endFault?_eq_none_iff {scanner : Scanner} :
    endFault? scanner = none ↔ scanner.stack = [] ∧ scanner.inComment = false := by
  obtain ⟨stack, inComment⟩ := scanner
  cases stack <;> cases inComment <;> simp [endFault?]

end TypedClient.Layout
