/-
# The text of template literals

Layout keeps what a text has of template literals but for one thing. A line that begins outside
their text is trimmed, so if it ends inside, the white space at its end is lost.
-/

import TypedClient.Proofs.Layout.Idempotence
import TypedClient.Proofs.Layout.TemplateSigns

namespace TypedClient.Layout

/-! ## Runs -/

section

variable {tabWidth number : Nat} {state after : State} {line : List Char}
  {lines : List (List Char)}

/-- An accepted line scans to what is open after it. -/
theorem scanLine_of_step (commentsCode : state.scanner.CommentsCode)
    (stepped : step tabWidth state number line = .ok after) :
    ∃ level, state.scanner.scanLine number level line = .ok after.scanner := by
  cases inside : state.scanner.inTemplate with
  | true =>
      rw [step_of_inTemplate inside] at stepped
      obtain ⟨scanner, scanned, rfl⟩ := templateLine_eq_ok_iff.mp stepped
      exact ⟨0, scanned⟩
  | false =>
      rw [step_of_not_inTemplate inside] at stepped
      split at stepped
      · rename_i isBlank
        cases stepped
        have unchanged : (blankLine state).scanner = state.scanner := by
          rcases blankLine_cases state with dropped | kept
          · rw [dropped]
          · rw [kept]
        refine ⟨0, ?_⟩
        rw [← scanLine_trimList commentsCode, isBlank, unchanged, scanLine_nil]
      · obtain ⟨-, scanner, scanned, rfl⟩ := codeLine_eq_ok_iff.mp stepped
        exact ⟨_, (scanLine_trimList commentsCode line).symm.trans scanned⟩

/-- What follows the lines of a run goes on where the run ends. -/
theorem openAfter_run (noFeed : ∀ line ∈ lines, '\n' ∉ line)
    (ran : run tabWidth 1 {} lines = .ok state) :
    state.scanner.CommentsCode ∧ ∀ more, openAfter (Text.joinLines lines ++ more) =
      state.scanner.openFrom (1 + lines.length) more := by
  induction lines using List.reverseRecOn generalizing state with
  | nil =>
      cases ran
      exact ⟨nofun, fun _ => rfl⟩
  | append_singleton lines line ih =>
      obtain ⟨noFeedLines, noFeedLine⟩ := List.forall_mem_append.mp noFeed
      obtain ⟨mid, ranLines, ranLine⟩ := run_append_eq_ok_iff.mp ran
      obtain ⟨next, stepped, ended⟩ := run_cons_eq_ok_iff.mp ranLine
      cases ended
      obtain ⟨commentsCode, goesOn⟩ := ih noFeedLines ranLines
      obtain ⟨level, scanned⟩ := scanLine_of_step commentsCode stepped
      refine ⟨commentsCode_of_scanLine commentsCode scanned, fun more => ?_⟩
      have beyond := Scanner.openFrom_line_newline commentsCode
        (noFeedLine line List.mem_cons_self) scanned more
      rw [Text.joinLines_append, Text.joinLines_cons, Text.joinLines_nil, List.append_assoc,
        List.append_assoc, goesOn]
      rw [List.length_append, List.length_singleton, ← Nat.add_assoc]
      exact beyond

theorem templateSigns_run_append (noFeed : ∀ line ∈ lines, '\n' ∉ line)
    (ran : run tabWidth 1 {} lines = .ok state) (more : List Char) :
    templateSigns (Text.joinLines lines ++ more) = templateSigns (Text.joinLines lines) ++
      signsAlong (state.scanner.openFrom (1 + lines.length)) more := by
  obtain ⟨-, goesOn⟩ := openAfter_run noFeed ran
  rw [templateSigns, signsAlong_append]
  exact congrArg (templateSigns (Text.joinLines lines) ++ ·)
    (signsAlong_congr fun start _ => goesOn start)

end

/-! ## Lost blanks -/

/-- Whether a sign is anything but white space in the text of a template literal. -/
def TemplateSign.isVisible : TemplateSign → Bool
  | .text c => !Text.isWhiteSpace c
  | _ => true

/-- Signs of which at most white space was lost, and none exactly if a condition holds. -/
structure LosesBlanks (kept whole : List TemplateSign) (nothing : Prop) : Prop where
  sublist : kept.Sublist whole
  visible : kept.filter (·.isVisible) = whole.filter (·.isVisible)
  same : kept = whole ↔ nothing

namespace LosesBlanks

variable {kept whole kept' whole' : List TemplateSign} {nothing nothing' : Prop}

theorem refl (signs : List TemplateSign) (holds : nothing) : LosesBlanks signs signs nothing :=
  ⟨List.Sublist.refl signs, rfl, iff_of_true rfl holds⟩

theorem congr (loses : LosesBlanks kept whole nothing) (same : nothing ↔ nothing') :
    LosesBlanks kept whole nothing' :=
  ⟨loses.sublist, loses.visible, loses.same.trans same⟩

/-- Blanks that are lost in one place. -/
theorem blanks {lost : List Char} (blank : ∀ c ∈ lost, Text.isWhiteSpace c = true)
    (body : List TemplateSign) : LosesBlanks body (body ++ lost.map .text) (lost = []) where
  sublist := List.sublist_append_left body _
  visible := by
    have invisible : (lost.map TemplateSign.text).filter (·.isVisible) = [] := by
      rw [List.filter_eq_nil_iff]
      intro sign member
      obtain ⟨c, isLost, rfl⟩ := List.mem_map.mp member
      simp [TemplateSign.isVisible, blank c isLost]
    rw [List.filter_append, invisible, List.append_nil]
  same := by simp

theorem append (loses : LosesBlanks kept whole nothing)
    (loses' : LosesBlanks kept' whole' nothing') :
    LosesBlanks (kept ++ kept') (whole ++ whole') (nothing ∧ nothing') where
  sublist := loses.sublist.append loses'.sublist
  visible := by rw [List.filter_append, List.filter_append, loses.visible, loses'.visible]
  same := by
    rw [← loses.same, ← loses'.same]
    constructor
    · intro same
      -- Neither part is longer than what it was kept of, so both are as long.
      have lengths := congrArg List.length same
      have shorter := loses.sublist.length_le
      have shorter' := loses'.sublist.length_le
      rw [List.length_append, List.length_append] at lengths
      exact ⟨loses.sublist.eq_of_length (by omega), loses'.sublist.eq_of_length (by omega)⟩
    · rintro ⟨rfl, rfl⟩
      rfl

end LosesBlanks

section

variable {tabWidth number : Nat} {state after : State} {other : Scanner} {line : List Char}

open Scanner

/-- A line of a template literal is printed with all its signs. -/
theorem signsAlong_templateLine (commentsCode : state.scanner.CommentsCode)
    (similar : state.scanner.Similar other) (noFeed : '\n' ∉ line)
    (stepped : templateLine state number line = .ok after) (number' : Nat) :
    signsAlong (other.openFrom number') (line ++ ['\n']) =
      signsAlong (state.scanner.openFrom number) (line ++ ['\n']) := by
  obtain ⟨scanner, scanned, rfl⟩ := templateLine_eq_ok_iff.mp stepped
  obtain ⟨scanner', scanned', similar'⟩ := scanLine_similar similar number number' 0 line scanned
  rw [signsAlong_line_newline commentsCode noFeed scanned,
    signsAlong_line_newline (similar.commentsCode commentsCode) noFeed scanned',
    similar.signsAlong_eq commentsCode noFeed number number', similar'.open?_eq]

/-- A blank line outside template literals has no signs. -/
theorem signsAlong_blankLine {scanner : Scanner} (commentsCode : scanner.CommentsCode)
    (outside : scanner.inTemplate = false) (noFeed : '\n' ∉ line)
    (blank : ∀ c ∈ line, Text.isWhiteSpace c = true) (number : Nat) :
    signsAlong (scanner.openFrom number) (line ++ ['\n']) = [] := by
  have notTemplate : ¬ IsTemplate scanner.open? := by
    rw [isTemplate_open?_iff commentsCode, outside]
    exact Bool.false_ne_true
  have noFeedAround : '\n' ∉ line ++ [] ++ [] := by simpa using noFeed
  have scanned : scanner.scanLine number 0 [] = .ok scanner := scanLine_nil scanner
  have signs := signsAlong_around commentsCode blank (List.forall_mem_nil _) noFeedAround outside
    scanned
  rw [List.append_nil, List.append_nil] at signs
  rw [signs, outside, templateSign?_outside _ notTemplate notTemplate]
  rfl

/-- The last character of a line is white space if blanks follow what trimming leaves. -/
theorem blanks_eq_nil_iff (before : List Char) {body blanks : List Char}
    (trimmed : Text.IsTrimmed body) (blank : ∀ c ∈ blanks, Text.isWhiteSpace c = true) :
    blanks = [] ↔ ∀ c ∈ (before ++ body ++ blanks).getLast?, Text.isWhiteSpace c = false := by
  constructor
  · rintro rfl c last
    rw [List.append_nil, List.getLast?_append_of_ne_nil _ trimmed.nonempty] at last
    exact trimmed.last c last
  · intro visible
    rcases List.eq_nil_or_concat blanks with isEmpty | ⟨front, last, rfl⟩
    · exact isEmpty
    · have isBlank := blank last (by simp)
      rw [List.concat_eq_append, ← List.append_assoc, List.getLast?_concat] at visible
      cases isBlank.symm.trans (visible last rfl)

/-- The blanks after a line of code are lost if the line leaves a template literal open. -/
theorem losesBlanks_codeLine (commentsCode : state.scanner.CommentsCode)
    (similar : state.scanner.Similar other) (outside : state.scanner.inTemplate = false)
    (unbroken : IsUnbroken line) (visible : Text.trimList line ≠ [])
    (stepped : codeLine tabWidth state number (Text.trimList line) = .ok after) (number' : Nat) :
    ∃ printed, after.printed = printed :: state.printed ∧
      LosesBlanks (signsAlong (other.openFrom number') (printed ++ ['\n']))
        (signsAlong (state.scanner.openFrom number) (line ++ ['\n']))
        (after.scanner.inTemplate = true → ∀ c ∈ line.getLast?, Text.isWhiteSpace c = false) := by
  let level := levelOf state (Text.trimList line)
  let indent := padding tabWidth level state.scanner.inComment (Text.trimList line)
  obtain ⟨-, scanner, scanned, rfl⟩ := codeLine_eq_ok_iff.mp stepped
  obtain ⟨scanner', scanned', similar'⟩ :=
    scanLine_similar similar number number' level (Text.trimList line) scanned
  obtain ⟨before, blanks, isLine, blankBefore, blankAfter⟩ := Text.exists_blanks_trimList line
  -- What trimming leaves of the line has the same signs in both places.
  have source := signsAlong_around commentsCode blankBefore blankAfter (isLine ▸ unbroken.1)
    outside scanned
  have noFeedPrinted : '\n' ∉ indent ++ Text.trimList line ++ [] := by
    rw [List.append_nil]
    exact unbroken.trimmed.padded.1
  have printed := signsAlong_around (similar.commentsCode commentsCode)
    (fun _ => isWhiteSpace_of_mem_padding) (List.forall_mem_nil _) noFeedPrinted
    (similar.inTemplate ▸ outside) scanned'
  rw [← isLine] at source
  rw [List.append_nil, ite_self, List.map_nil, List.append_nil,
    ← similar.signsAlong_eq commentsCode unbroken.trimmed.1 number number',
    ← similar'.open?_eq] at printed
  refine ⟨indent ++ Text.trimList line, rfl, ?_⟩
  rw [source, printed]
  have lostBlank : ∀ c ∈ (if scanner.inTemplate then blanks else []),
      Text.isWhiteSpace c = true := by
    intro c member
    split at member
    · exact blankAfter c member
    · cases member
  refine ((LosesBlanks.blanks lostBlank _).append (LosesBlanks.refl _ trivial)).congr ?_
  have tight := blanks_eq_nil_iff before (Text.isTrimmed_trimList visible) blankAfter
  rw [← isLine] at tight
  rw [and_true, ← tight]
  show (if scanner.inTemplate then blanks else []) = [] ↔ (scanner.inTemplate = true → blanks = [])
  by_cases inside : scanner.inTemplate = true <;> simp [inside]

theorem isWhiteSpace_of_trimList_eq_nil (isBlank : Text.trimList line = []) :
    ∀ c ∈ line, Text.isWhiteSpace c = true := by
  obtain ⟨before, blanks, isLine, blankBefore, blankAfter⟩ := Text.exists_blanks_trimList line
  rw [isLine, isBlank, List.append_nil]
  exact List.forall_mem_append.mpr ⟨blankBefore, blankAfter⟩

/-- What is printed of a line has its signs, but for blanks at its end where a template literal
opens and goes on. -/
theorem losesBlanks_step (commentsCode : state.scanner.CommentsCode)
    (similar : state.scanner.Similar other) (unbroken : IsUnbroken line)
    (stepped : step tabWidth state number line = .ok after) (number' : Nat) :
    ∃ printed, after.printed = printed.reverse ++ state.printed ∧
      LosesBlanks (signsAlong (other.openFrom number') (Text.joinLines printed))
        (signsAlong (state.scanner.openFrom number) (line ++ ['\n']))
        (state.scanner.inTemplate = false → after.scanner.inTemplate = true →
          ∀ c ∈ line.getLast?, Text.isWhiteSpace c = false) := by
  cases inside : state.scanner.inTemplate with
  | true =>
      rw [step_of_inTemplate inside] at stepped
      have same := signsAlong_templateLine commentsCode similar unbroken.1 stepped number'
      obtain ⟨scanner, -, rfl⟩ := templateLine_eq_ok_iff.mp stepped
      refine ⟨[line], rfl, ?_⟩
      rw [Text.joinLines_cons, Text.joinLines_nil, same]
      exact .refl _ nofun
  | false =>
      rw [step_of_not_inTemplate inside] at stepped
      split at stepped
      · rename_i isBlank
        cases stepped
        have blank := isWhiteSpace_of_trimList_eq_nil isBlank
        have source := signsAlong_blankLine commentsCode inside unbroken.1 blank number
        have empty := signsAlong_blankLine (similar.commentsCode commentsCode)
          (similar.inTemplate ▸ inside) List.not_mem_nil (List.forall_mem_nil _) number'
        rw [source]
        rcases blankLine_cases state with dropped | kept
        · rw [dropped]
          exact ⟨[], rfl, .refl [] fun _ opens => nomatch inside.symm.trans opens⟩
        · rw [kept]
          refine ⟨[[]], rfl, ?_⟩
          rw [Text.joinLines_cons, Text.joinLines_nil, empty]
          exact .refl [] fun _ opens => nomatch inside.symm.trans opens
      · rename_i visible
        obtain ⟨printed, isPrinted, loses⟩ :=
          losesBlanks_codeLine commentsCode similar inside unbroken visible stepped number'
        refine ⟨[printed], isPrinted, ?_⟩
        rw [Text.joinLines_cons, Text.joinLines_nil]
        exact loses.congr (by simp)

end

/-! ## Whole texts -/

/-- No line that begins outside the text of template literals and ends inside it ends in white
space. -/
def KeepsLineEnds (lines : List (List Char)) : Prop :=
  ∀ before line after, lines = before ++ line :: after → ¬ EndsInTemplate (Text.joinLines before) →
    EndsInTemplate (Text.joinLines before ++ line) → ∀ c ∈ line.getLast?,
      Text.isWhiteSpace c = false

section

variable {tabWidth : Nat} {state : State} {lines : List (List Char)} {line : List Char}

theorem endsInTemplate_joinLines_iff (noFeed : ∀ line ∈ lines, '\n' ∉ line)
    (ran : run tabWidth 1 {} lines = .ok state) :
    EndsInTemplate (Text.joinLines lines) ↔ state.scanner.inTemplate = true := by
  obtain ⟨commentsCode, goesOn⟩ := openAfter_run noFeed ran
  have atEnd := goesOn []
  rw [List.append_nil, Scanner.openFrom_nil] at atEnd
  rw [EndsInTemplate, atEnd, Scanner.isTemplate_open?_iff commentsCode]

/-- A further line is kept if it leaves no template literal open that was not, or does not end in
white space. -/
theorem keepsLineEnds_concat :
    KeepsLineEnds (lines ++ [line]) ↔ KeepsLineEnds lines ∧
      (¬ EndsInTemplate (Text.joinLines lines) → EndsInTemplate (Text.joinLines lines ++ line) →
        ∀ c ∈ line.getLast?, Text.isWhiteSpace c = false) := by
  constructor
  · intro keeps
    refine ⟨fun before other after parts => ?_, keeps lines line [] rfl⟩
    exact keeps before other (after ++ [line]) (by rw [parts, List.append_assoc]; rfl)
  · rintro ⟨keeps, keepsLast⟩ before other after parts
    rcases List.eq_nil_or_concat after with rfl | ⟨front, last, rfl⟩
    · obtain ⟨rfl, same⟩ := List.append_inj' parts rfl
      cases same
      exact keepsLast
    · rw [List.concat_eq_append, ← List.cons_append, ← List.append_assoc] at parts
      obtain ⟨parts, -⟩ := List.append_inj' parts rfl
      exact keeps before other front parts

theorem isUnbroken_printed (unbroken : ∀ line ∈ lines, IsUnbroken line)
    (ran : run tabWidth 1 {} lines = .ok state) : ∀ line ∈ state.printed, IsUnbroken line := by
  refine run_preserves (fun state => ∀ line ∈ state.printed, IsUnbroken line)
    (fun line member state number after before stepped => ?_) (List.forall_mem_nil _) ran
  exact step_printed_isUnbroken (unbroken line member) before stepped

theorem reproduced_run (ran : run tabWidth 1 {} lines = .ok state) : Reproduced tabWidth state :=
  run_preserves (Reproduced tabWidth) (fun _ _ _ _ _ => step_reproduced)
    ⟨{}, rfl, Scanner.Similar.refl _, rfl, rfl⟩ ran

/-- What a run prints has the signs of its lines, but for blanks at their ends. -/
theorem losesBlanks_run (unbroken : ∀ line ∈ lines, IsUnbroken line)
    (ran : run tabWidth 1 {} lines = .ok state) :
    LosesBlanks (templateSigns (Text.joinLines state.printed.reverse))
      (templateSigns (Text.joinLines lines)) (KeepsLineEnds lines) := by
  induction lines using List.reverseRecOn generalizing state with
  | nil =>
      cases ran
      refine .refl _ fun before line after parts => ?_
      cases before <;> cases parts
  | append_singleton lines line ih =>
      obtain ⟨unbrokenLines, unbrokenLine⟩ := List.forall_mem_append.mp unbroken
      have noFeed : ∀ line ∈ lines, '\n' ∉ line := fun line member => (unbrokenLines line member).1
      obtain ⟨mid, ranLines, ranLine⟩ := run_append_eq_ok_iff.mp ran
      obtain ⟨next, stepped, ended⟩ := run_cons_eq_ok_iff.mp ranLine
      cases ended
      -- The lines that were printed are read again to where the run stands.
      obtain ⟨again, ranAgain, similar⟩ := reproduced_run ranLines
      have noFeedPrinted : ∀ line ∈ mid.printed.reverse, '\n' ∉ line := fun line member =>
        (isUnbroken_printed unbrokenLines ranLines line (List.mem_reverse.mp member)).1
      obtain ⟨commentsCode, goesOn⟩ := openAfter_run noFeed ranLines
      obtain ⟨printed, isPrinted, loses⟩ := losesBlanks_step commentsCode similar.scanner
        (unbrokenLine line List.mem_cons_self) stepped (1 + mid.printed.reverse.length)
      rw [isPrinted, List.reverse_append, List.reverse_reverse, Text.joinLines_append,
        Text.joinLines_append, Text.joinLines_cons, Text.joinLines_nil,
        templateSigns_run_append noFeedPrinted ranAgain, templateSigns_run_append noFeed ranLines]
      refine ((ih unbrokenLines ranLines).append loses).congr ?_
      obtain ⟨level, scanned⟩ := scanLine_of_step commentsCode stepped
      have atEnd := Scanner.openFrom_of_scanLine commentsCode
        (unbrokenLine line List.mem_cons_self).1 scanned
      rw [keepsLineEnds_concat, endsInTemplate_joinLines_iff noFeed ranLines, Bool.not_eq_true,
        EndsInTemplate, goesOn, atEnd,
        Scanner.isTemplate_open?_iff (commentsCode_of_scanLine commentsCode scanned)]

/-- Where nothing is open, line feeds have no signs. -/
theorem signsAlong_feeds {scanner : Scanner} (closed : endFault? scanner = none) (number : Nat)
    {feeds : List Char} (areFeeds : ∀ c ∈ feeds, c = '\n') :
    signsAlong (scanner.openFrom number) feeds = [] := by
  obtain ⟨noStack, noComment⟩ := endFault?_eq_none_iff.mp closed
  have nothingOpen {start : List Char} (areFeeds : ∀ c ∈ start, c = '\n') (number : Nat) :
      scanner.openFrom number start = some [] := by
    have text : scanText .code number [] start = .ended [] false := by
      induction start generalizing number with
      | nil => rfl
      | cons c start ih =>
          obtain ⟨rfl, rest⟩ := List.forall_mem_cons.mp areFeeds
          exact ih rest (number + 1)
    rw [Scanner.openFrom, Scanner.region, Scanner.openers, noStack, noComment]
    exact congrArg Verdict.open? text
  refine signsAlong_outside fun start isStart => ?_
  rw [nothingOpen fun c member => areFeeds c (isStart.subset member)]
  rintro ⟨outer, ⟨⟩⟩

theorem closed_of_similar {first second : Scanner} (similar : first.Similar second)
    (closed : endFault? first = none) : endFault? second = none := by
  obtain ⟨noStack, noComment⟩ := endFault?_eq_none_iff.mp closed
  have frames := similar.frames
  rw [noStack, List.forall₂_nil_left_iff] at frames
  exact endFault?_eq_none_iff.mpr ⟨frames, similar.comment.symm.trans noComment⟩

/-- Blank lines at the end of what is printed have no signs. -/
theorem templateSigns_printedText (unbroken : ∀ line ∈ lines, IsUnbroken line)
    (ran : run tabWidth 1 {} lines = .ok state) (closed : endFault? state.scanner = none) :
    templateSigns (printedText state.printed) =
      templateSigns (Text.joinLines state.printed.reverse) := by
  let kept := (state.printed.dropWhile List.isEmpty).reverse
  let empty := (state.printed.takeWhile List.isEmpty).reverse
  have parts : state.printed.reverse = kept ++ empty := by
    rw [← List.reverse_append, List.takeWhile_append_dropWhile]
  have areEmpty : ∀ line ∈ empty, line = [] := fun line member =>
    List.isEmpty_iff.mp (List.mem_takeWhile_imp (List.mem_reverse.mp member))
  have areFeeds : ∀ c ∈ Text.joinLines empty, c = '\n' := by
    intro c member
    obtain ⟨line, isEmpty, inLine⟩ := List.mem_flatMap.mp member
    rw [areEmpty line isEmpty] at inLine
    exact List.mem_singleton.mp inLine
  obtain ⟨again, ranAgain, similar⟩ := reproduced_run ran
  rw [parts, run_append_eq_ok_iff] at ranAgain
  obtain ⟨mid, ranKept, ranEmpty⟩ := ranAgain
  have noFeedKept : ∀ line ∈ kept, '\n' ∉ line := by
    intro line member
    refine (isUnbroken_printed unbroken ran line ?_).1
    exact (List.dropWhile_suffix List.isEmpty).subset (List.mem_reverse.mp member)
  have closedMid : endFault? mid.scanner = none := by
    rw [← (run_empty areEmpty ranEmpty).1]
    exact closed_of_similar similar.scanner closed
  have noSigns := signsAlong_feeds closedMid (1 + kept.length) areFeeds
  rw [parts, Text.joinLines_append, templateSigns_run_append noFeedKept ranKept, noSigns,
    List.append_nil]
  show templateSigns (List.intercalate ['\n'] kept ++ ['\n']) = _
  by_cases nothing : kept = []
  · rw [nothing]
    exact signsAlong_feeds (show endFault? {} = none from rfl) 1 (List.forall_mem_singleton.mpr rfl)
  · rw [Text.intercalate_append_newline nothing]

/-- The lines of a text without carriage returns make it up, but for a line feed at its end. -/
theorem joinLines_linesFrom_cases {current text : List Char} (noReturnCurrent : '\r' ∉ current)
    (noReturn : '\r' ∉ text) :
    Text.joinLines (Text.linesFrom current text) = current.reverse ++ text ∨
      ∃ front line, Text.linesFrom current text = front ++ [line] ∧
        current.reverse ++ text = Text.joinLines front ++ line := by
  induction text generalizing current with
  | nil =>
      cases current with
      | nil => exact Or.inl rfl
      | cons c current => exact Or.inr ⟨[], _, by rw [Text.linesFrom]; rfl, by simp⟩
  | cons c text ih =>
      obtain ⟨notReturn, noReturnRest⟩ := not_or.mp (mt List.mem_cons.mpr noReturn)
      by_cases feed : c = '\n'
      · subst feed
        have closed : Text.closeLine current = current.reverse := by
          have close : Text.closeLine current.reverse.reverse = current.reverse :=
            Text.closeLine_reverse fun last =>
              noReturnCurrent (List.mem_reverse.mp (List.mem_of_getLast? last))
          rwa [List.reverse_reverse] at close
        rw [Text.linesFrom_newline, closed, Text.joinLines_cons]
        rcases ih List.not_mem_nil noReturnRest with whole | ⟨front, line, parts, text'⟩
        · exact Or.inl (by rw [whole]; rfl)
        · refine Or.inr ⟨current.reverse :: front, line, by rw [parts]; rfl, ?_⟩
          rw [Text.joinLines_cons, List.append_assoc, List.cons_append, ← text']
          rfl
      · have step : Text.linesFrom current (c :: text) = Text.linesFrom (c :: current) text := by
          cases current <;> simp [Text.linesFrom]
        have noReturnCons : '\r' ∉ c :: current := by
          rw [List.mem_cons, not_or]
          exact ⟨notReturn, noReturnCurrent⟩
        have parts := ih noReturnCons noReturnRest
        rwa [List.reverse_cons, List.append_assoc, List.singleton_append, ← step] at parts

/-- A line feed after an accepted text has no sign. -/
theorem templateSigns_joinLines_lineLists {text : List Char} (noReturn : '\r' ∉ text)
    (ran : run tabWidth 1 {} (Text.lineLists text) = .ok state)
    (closed : endFault? state.scanner = none) :
    templateSigns (Text.joinLines (Text.lineLists text)) = templateSigns text := by
  have unbroken : ∀ line ∈ Text.lineLists text, IsUnbroken line := fun _ =>
    isUnbroken_of_mem_lineLists noReturn
  rcases joinLines_linesFrom_cases List.not_mem_nil noReturn with
    whole | ⟨front, line, parts, text'⟩
  · exact congrArg templateSigns whole
  · rw [← Text.lineLists] at parts
    rw [List.reverse_nil, List.nil_append] at text'
    rw [parts] at unbroken ran
    obtain ⟨unbrokenFront, unbrokenLine⟩ := List.forall_mem_append.mp unbroken
    have noFeed : ∀ line ∈ front, '\n' ∉ line := fun line member => (unbrokenFront line member).1
    obtain ⟨mid, ranFront, ranLine⟩ := run_append_eq_ok_iff.mp ran
    obtain ⟨next, stepped, ended⟩ := run_cons_eq_ok_iff.mp ranLine
    cases ended
    obtain ⟨commentsCode, -⟩ := openAfter_run noFeed ranFront
    obtain ⟨level, scanned⟩ := scanLine_of_step commentsCode stepped
    have notTemplate : ¬ IsTemplate state.scanner.open? := by
      obtain ⟨noStack, noComment⟩ := endFault?_eq_none_iff.mp closed
      rw [Scanner.open?, noStack, noComment]
      rintro ⟨outer, ⟨⟩⟩
    rw [parts, text', Text.joinLines_append, Text.joinLines_cons, Text.joinLines_nil,
      templateSigns_run_append noFeed ranFront, templateSigns_run_append noFeed ranFront,
      Scanner.signsAlong_line_newline commentsCode (unbrokenLine line List.mem_cons_self).1 scanned,
      templateSign?_outside _ notTemplate notTemplate]
    rw [Option.toList_none, List.append_nil]

theorem losesBlanks_formatList {text formatted : List Char} (noReturn : '\r' ∉ text)
    (accepted : formatList tabWidth text = .ok formatted) :
    LosesBlanks (templateSigns formatted) (templateSigns text)
      (KeepsLineEnds (Text.lineLists text)) := by
  obtain ⟨last, ran, closed, rfl⟩ := formatList_eq_ok_iff.mp accepted
  have unbroken : ∀ line ∈ Text.lineLists text, IsUnbroken line := fun _ =>
    isUnbroken_of_mem_lineLists noReturn
  rw [templateSigns_printedText unbroken ran closed,
    ← templateSigns_joinLines_lineLists noReturn ran closed]
  exact losesBlanks_run unbroken ran

end

end TypedClient.Layout

namespace TypedClient.Formatter

open Layout

/-- Layout adds nothing to the template literals of a source and takes nothing from them but white
space. They stay as they are exactly if no line that begins outside their text and ends inside it
ends in white space. -/
theorem layout_templateSigns (source : String) (language : Language) (style : FormatStyle)
    (noReturn : '\r' ∉ source.toList) (formatted : String)
    (accepted : layout source language style = .ok formatted) :
    (templateSigns formatted.toList).Sublist (templateSigns source.toList) ∧
      (templateSigns formatted.toList).filter (·.isVisible) =
        (templateSigns source.toList).filter (·.isVisible) ∧
      (templateSigns formatted.toList = templateSigns source.toList ↔
        KeepsLineEnds (Text.lineLists source.toList)) := by
  unfold layout at accepted
  cases result : formatList style.tabWidth source.toList with
  | error fault => simp [result] at accepted
  | ok text =>
      rw [result] at accepted
      cases accepted
      obtain ⟨sublist, visible, same⟩ := losesBlanks_formatList noReturn result
      rw [String.toList_ofList]
      exact ⟨sublist, visible, same⟩

/-- The sample keeps its template literal, blanks included. -/
theorem layout_templateSigns_sample :
    layout sampleSource .typeScript {} = .ok sampleLayout ∧
      templateSigns sampleLayout.toList = templateSigns sampleSource.toList ∧
      KeepsLineEnds (Text.lineLists sampleSource.toList) := by
  obtain ⟨-, -, same⟩ :=
    layout_templateSigns sampleSource .typeScript {} (by decide) sampleLayout rfl
  have isSame : templateSigns sampleLayout.toList = templateSigns sampleSource.toList := by
    decide +kernel
  exact ⟨rfl, isSame, same.mp isSame⟩

/-- A template literal that goes on after a blank at the end of its first line. -/
def blankEndSource : String := "const a = \x60x \ny\x60;\n"

/-- The blank belongs to the literal and is lost. -/
theorem layout_loses_blankEnd :
    '\r' ∉ blankEndSource.toList ∧
      layout blankEndSource .typeScript {} = .ok "const a = \x60x\ny\x60;\n" ∧
      templateSigns blankEndSource.toList =
        [.opens, .text 'x', .text ' ', .text '\n', .text 'y', .closes] ∧
      templateSigns "const a = \x60x\ny\x60;\n".toList =
        [.opens, .text 'x', .text '\n', .text 'y', .closes] := by
  decide +kernel

end TypedClient.Formatter
