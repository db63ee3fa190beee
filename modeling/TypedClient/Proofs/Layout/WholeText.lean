/-
# Line by line and end to end

Layout trims its lines, skips the blank ones and scans one after the other. The blanks
around a line leave what is open as it is, and so does what trimming cuts off: the carriage
return of a line end, the character after a backslash, a blank after a dollar sign. So
layout accepts the texts that scanning from end to end accepts, and its diagnostics are
those of that scan, as long as no line of code declares something that is no identifier.
-/

import TypedClient.Proofs.Layout.Step
import TypedClient.Proofs.Layout.TextScan
import TypedClient.Proofs.Text.Lines

namespace TypedClient.Layout

variable {scanner : Scanner} {mode : Mode} {number level tabWidth : Nat} {blanks line : List Char}

/-! ## White space -/

/-- A blank ends what is pending as the end of the line does, and changes nothing else. -/
theorem feed_whiteSpace (fits : mode.Fits scanner) {c : Char} (blank : Text.isWhiteSpace c = true)
    (number level : Nat) :
    ∃ next, Scanner.feed number level (scanner, mode) c = .ok (scanner, next) ∧
      Scanner.endLine (scanner, next) = Scanner.endLine (scanner, mode) ∧
      (mode = .plain → next = .plain) := by
  have differs (d : Char) (visible : Text.isWhiteSpace d = false) : c ≠ d := by
    rintro rfl
    exact absurd (blank.symm.trans visible) (by decide)
  have inCode : scanner.feedCode number level c = .ok (scanner, .plain) := by
    have opensNone : Delimiter.opened? c = none := by
      simp [Delimiter.opened?, differs '(' (by decide), differs '[' (by decide),
        differs '{' (by decide)]
    have closesNone : isCloser c = false := by
      simp [isCloser, differs ')' (by decide), differs ']' (by decide), differs '}' (by decide)]
    simp [Scanner.feedCode, differs '/' (by decide), differs '"' (by decide),
      differs '\'' (by decide), differs '\x60' (by decide), opensNone, closesNone]
  have inTemplate : scanner.feedTemplate c = (scanner, .plain) := by
    simp [Scanner.feedTemplate, differs '\\' (by decide), differs '\x60' (by decide),
      differs '$' (by decide)]
  have inComment : scanner.feedComment c = (scanner, .plain) := by
    simp [Scanner.feedComment, differs '*' (by decide)]
  cases mode with
  | plain =>
      refine ⟨.plain, ?_, rfl, fun _ => rfl⟩
      simp [Scanner.feed, inCode, inTemplate, inComment]
  | afterSlash =>
      refine ⟨.plain, ?_, rfl, fun _ => rfl⟩
      simp [Scanner.feed, inCode, differs '/' (by decide), differs '*' (by decide)]
  | lineComment => exact ⟨.lineComment, rfl, rfl, fun isPlain => by cases isPlain⟩
  | string quote =>
      refine ⟨.string quote, ?_, rfl, fun isPlain => by cases isPlain⟩
      simp [Scanner.feed, differs '\\' (by decide), differs quote fits.2]
  | stringEscape quote => exact ⟨.string quote, rfl, rfl, fun isPlain => by cases isPlain⟩
  | templateEscape => exact ⟨.plain, rfl, rfl, fun _ => rfl⟩
  | afterDollar =>
      refine ⟨.plain, ?_, rfl, fun _ => rfl⟩
      simp [Scanner.feed, inTemplate, differs '{' (by decide)]
  | afterStar =>
      refine ⟨.plain, ?_, rfl, fun _ => rfl⟩
      simp [Scanner.feed, inComment, differs '/' (by decide)]

theorem foldlM_blanks (fits : mode.Fits scanner)
    (blank : ∀ c ∈ blanks, Text.isWhiteSpace c = true) (number level : Nat) :
    ∃ next, blanks.foldlM (Scanner.feed number level) (scanner, mode) = .ok (scanner, next) ∧
      Scanner.endLine (scanner, next) = Scanner.endLine (scanner, mode) ∧
      (mode = .plain → next = .plain) := by
  induction blanks generalizing mode with
  | nil => exact ⟨mode, rfl, rfl, id⟩
  | cons c blanks ih =>
      obtain ⟨blankHead, blankTail⟩ := List.forall_mem_cons.mp blank
      obtain ⟨mid, fed, ends, plain⟩ := feed_whiteSpace fits blankHead number level
      obtain ⟨next, fedRest, endsRest, plainRest⟩ := ih (fits_feed fits fed) blankTail
      refine ⟨next, ?_, endsRest.trans ends, plainRest ∘ plain⟩
      rw [List.foldlM_cons, fed]
      exact fedRest

/-- Blanks at the end of a line leave open what the line leaves open. -/
theorem scanLine_append_blanks (commentsCode : scanner.CommentsCode)
    (blank : ∀ c ∈ blanks, Text.isWhiteSpace c = true) :
    scanner.scanLine number level (line ++ blanks) = scanner.scanLine number level line := by
  unfold Scanner.scanLine
  rw [List.foldlM_append, bind_assoc]
  cases fed : line.foldlM (Scanner.feed number level) (scanner, .plain) with
  | error fault => rfl
  | ok state =>
      obtain ⟨inner, mode⟩ := state
      have fits : mode.Fits inner := fits_foldlM (show Mode.plain.Fits scanner from commentsCode) fed
      obtain ⟨next, fedBlanks, ends, -⟩ := foldlM_blanks fits blank number level
      calc blanks.foldlM (Scanner.feed number level) (inner, mode) >>= Scanner.endLine
          = Scanner.endLine (inner, next) := by rw [fedBlanks]; rfl
        _ = Scanner.endLine (inner, mode) := ends

/-- Blanks at the start of a line leave open what is open. -/
theorem scanLine_blanks_append (commentsCode : scanner.CommentsCode)
    (blank : ∀ c ∈ blanks, Text.isWhiteSpace c = true) :
    scanner.scanLine number level (blanks ++ line) = scanner.scanLine number level line := by
  obtain ⟨next, fedBlanks, -, plain⟩ :=
    foldlM_blanks (show Mode.plain.Fits scanner from commentsCode) blank number level
  unfold Scanner.scanLine
  rw [List.foldlM_append, fedBlanks, plain rfl]
  rfl

theorem scanLine_trimList (commentsCode : scanner.CommentsCode) (line : List Char) :
    scanner.scanLine number level (Text.trimList line) = scanner.scanLine number level line := by
  obtain ⟨before, after, isLine, blankBefore, blankAfter⟩ := Text.exists_blanks_trimList line
  conv_rhs => rw [isLine]
  rw [List.append_assoc, scanLine_blanks_append commentsCode blankBefore,
    scanLine_append_blanks commentsCode blankAfter]

/-- A line of blanks scans to what was open before. -/
theorem scanLine_nil (scanner : Scanner) : scanner.scanLine number level [] = .ok scanner := rfl

/-! ## One line -/

/-- Whether a line at which the scan is in code declares no illegal name. -/
def LegalAt (region : Region) (line : List Char) : Prop :=
  region = .code → declarationFault? (Text.trimList line) = none

/-- A line is laid out as it is scanned, at some level and with the blanks of its line end. -/
theorem step_eq_scanLine {state : State} (commentsCode : state.scanner.CommentsCode)
    (blank : ∀ c ∈ blanks, Text.isWhiteSpace c = true)
    (legal : LegalAt state.scanner.region (line ++ blanks)) (tabWidth number : Nat) :
    ∃ level, (step tabWidth state number line).map State.scanner =
      state.scanner.scanLine number level (line ++ blanks) := by
  rw [LegalAt, Text.trimList_append_blanks blank] at legal
  cases inTemplate : state.scanner.inTemplate with
  | true =>
      refine ⟨0, ?_⟩
      rw [step_of_inTemplate inTemplate, scanLine_append_blanks commentsCode blank]
      unfold templateLine
      cases state.scanner.scanLine number 0 line <;> rfl
  | false =>
      refine ⟨levelOf state (Text.trimList line), ?_⟩
      rw [step_of_not_inTemplate inTemplate, scanLine_append_blanks commentsCode blank,
        ← scanLine_trimList commentsCode line]
      split
      · rename_i isBlank
        have unchanged : (blankLine state).scanner = state.scanner := by
          unfold blankLine
          split <;> rfl
        rw [isBlank]
        exact congrArg Except.ok unchanged
      · have noFault : (if state.scanner.inComment then none
            else declarationFault? (Text.trimList line)) = none := by
          cases inComment : state.scanner.inComment with
          | true => rfl
          | false => exact legal (region_eq_code_iff.mpr ⟨inComment, inTemplate⟩)
        rw [codeLine_eq, noFault]
        cases state.scanner.scanLine number (levelOf state (Text.trimList line))
          (Text.trimList line) <;> rfl

/-- Scanning on goes through a line as layout does. -/
theorem scanText_step {state : State} {rest : List Char}
    (commentsCode : state.scanner.CommentsCode)
    (blank : ∀ c ∈ blanks, Text.isWhiteSpace c = true) (noFeed : '\n' ∉ line ++ blanks)
    (legal : LegalAt state.scanner.region (line ++ blanks)) (ends : EndsLine rest)
    (tabWidth number : Nat) :
    scanText state.scanner.region number state.scanner.openers (line ++ blanks ++ rest) =
      match step tabWidth state number line with
      | .error fault => .fault fault.message number
      | .ok after => scanText after.scanner.region number after.scanner.openers rest := by
  obtain ⟨level, scanned⟩ := step_eq_scanLine commentsCode blank legal tabWidth number
  rw [scanText_line commentsCode noFeed ends number level, ← scanned]
  cases step tabWidth state number line <;> rfl

theorem commentsCode_of_step {state after : State} (commentsCode : state.scanner.CommentsCode)
    (blank : ∀ c ∈ blanks, Text.isWhiteSpace c = true)
    (legal : LegalAt state.scanner.region (line ++ blanks))
    (stepped : step tabWidth state number line = .ok after) : after.scanner.CommentsCode := by
  obtain ⟨level, scanned⟩ := step_eq_scanLine commentsCode blank legal tabWidth number
  rw [stepped] at scanned
  exact commentsCode_of_scanLine commentsCode scanned.symm

/-! ## All lines -/

/-- No line of code declares an illegal name. What a line belongs to is where the scan of the
lines before it ends. -/
def LegalLines (region : Region) (number : Nat) (openers : List Opener)
    (lines : List (List Char)) : Prop :=
  ∀ before line after, lines = before ++ line :: after →
    ∀ around, scanText region number openers (Text.joinLines before) = .ended around false →
      LegalAt (regionIn around) line

/-- The verdict of a run over lines. -/
def runVerdict : Except (Fault × Option Nat) State → Option FormatDiagnostic
  | .error (fault, line?) => some ⟨fault.message, line?⟩
  | .ok last => (Verdict.ended last.scanner.openers last.scanner.inComment).diagnostic?

section

variable {state : State} {lines : List (List Char)}

theorem scanText_joinLines_nil (scanner : Scanner) (number : Nat) :
    scanText scanner.region number scanner.openers (Text.joinLines []) =
      .ended scanner.openers scanner.inComment :=
  scanText_nil scanner number

/-- The first of legal lines is legal. -/
theorem LegalLines.head
    (legal : LegalLines state.scanner.region number state.scanner.openers (line :: lines)) :
    LegalAt state.scanner.region line := by
  intro isCode
  have outside := (region_eq_code_iff.mp isCode).1
  have scanned := scanText_joinLines_nil state.scanner number
  rw [outside] at scanned
  refine legal [] line lines rfl _ scanned ?_
  rw [← isCode, Scanner.region, outside]
  rfl

/-- What follows a line is legal where the line ends. -/
theorem LegalLines.tail {after : State} (commentsCode : state.scanner.CommentsCode)
    (blank : ∀ c ∈ blanks, Text.isWhiteSpace c = true) (noFeed : '\n' ∉ line ++ blanks)
    (legal : LegalLines state.scanner.region number state.scanner.openers
      ((line ++ blanks) :: lines))
    (stepped : step tabWidth state number line = .ok after) :
    LegalLines after.scanner.region (number + 1) after.scanner.openers lines := by
  intro before other rest isLines around scanned
  refine legal ((line ++ blanks) :: before) other rest (by rw [isLines]; rfl) around ?_
  have ends : EndsLine ('\n' :: Text.joinLines before) := by
    intro c isHead
    exact (Option.some.inj isHead).symm
  rw [Text.joinLines_cons, scanText_step commentsCode blank noFeed legal.head ends
    tabWidth number, stepped]
  exact (scanText_newline ..).trans scanned

/-- A run over the lines of a text ends as the scan of the text. -/
theorem diagnostic?_scanText_intercalate (tabWidth : Nat)
    (commentsCode : state.scanner.CommentsCode) (noFeed : ∀ line ∈ lines, '\n' ∉ line)
    (legal : LegalLines state.scanner.region number state.scanner.openers lines) :
    (scanText state.scanner.region number state.scanner.openers
        (List.intercalate ['\n'] lines)).diagnostic? =
      runVerdict (run tabWidth number state
        (Text.lineLists (List.intercalate ['\n'] lines))) := by
  induction lines generalizing state number with
  | nil => exact congrArg Verdict.diagnostic? (scanText_nil state.scanner number)
  | cons line rest ih =>
      obtain ⟨noFeedLine, noFeedRest⟩ := List.forall_mem_cons.mp noFeed
      cases rest with
      | nil =>
          rw [List.intercalate_singleton, Text.lineLists_of_noFeed noFeedLine]
          split
          · rename_i isEmpty
            rw [isEmpty]
            exact congrArg Verdict.diagnostic? (scanText_nil state.scanner number)
          · have noBlanks : ∀ c ∈ ([] : List Char), Text.isWhiteSpace c = true := nofun
            have scanned := scanText_step commentsCode noBlanks (by simpa using noFeedLine)
              (by simpa using legal.head) (show EndsLine [] from nofun) tabWidth number
            rw [List.append_nil, List.append_nil] at scanned
            rw [scanned, run]
            cases step tabWidth state number line with
            | error fault => rfl
            | ok after => exact congrArg Verdict.diagnostic? (scanText_nil after.scanner number)
      | cons next rest =>
          obtain ⟨ending, isLine, isReturn⟩ := Text.exists_closeLine_reverse line
          have blank : ∀ c ∈ ending, Text.isWhiteSpace c = true := by
            intro c member
            rw [isReturn c member]
            decide
          have textEnds : EndsLine ('\n' :: List.intercalate ['\n'] (next :: rest)) := by
            intro c isHead
            exact (Option.some.inj isHead).symm
          rw [isLine] at noFeedLine legal
          rw [List.intercalate_cons_cons, List.append_assoc, List.singleton_append,
            Text.lineLists, Text.linesFrom_append_newline (isLine ▸ noFeedLine),
            List.append_nil, ← Text.lineLists, run]
          conv_lhs => rw [isLine]
          rw [scanText_step commentsCode blank noFeedLine legal.head textEnds tabWidth number]
          cases stepped : step tabWidth state number (Text.closeLine line.reverse) with
          | error fault => rfl
          | ok after =>
              have commentsCodeAfter := commentsCode_of_step commentsCode blank legal.head stepped
              rw [← ih commentsCodeAfter noFeedRest
                (legal.tail commentsCode blank noFeedLine stepped)]
              exact congrArg Verdict.diagnostic? (scanText_newline ..)

end

/-- No line outside block comments and the text of template literals declares an illegal
name. -/
def DeclaresLegalNames (source : String) : Prop :=
  LegalLines .code 1 [] (Text.splitOn (· == '\n') source.toList)

/-- Names are legal if every line is, wherever it stands. -/
theorem declaresLegalNames_of_forall {source : String}
    (legal : ∀ line ∈ Text.splitOn (· == '\n') source.toList,
      declarationFault? (Text.trimList line) = none) : DeclaresLegalNames source := by
  intro before line after isLines _ _ _
  exact legal line (by rw [isLines]; simp)

theorem endFault?_eq (scanner : Scanner) :
    (endFault? scanner).map
        (fun (fault, line?) => (⟨fault.message, line?⟩ : FormatDiagnostic)) =
      (Verdict.ended scanner.openers scanner.inComment).diagnostic? := by
  obtain ⟨stack, inComment⟩ := scanner
  cases stack with
  | nil => cases inComment <;> rfl
  | cons frame others =>
      obtain ⟨delimiter, line, level⟩ := frame
      cases delimiter <;> rfl

/-- Layout refuses a text with the diagnostic of its scan from end to end. -/
theorem formatList_diagnostic? {source : String} (legal : DeclaresLegalNames source)
    (tabWidth : Nat) :
    (match formatList tabWidth source.toList with
      | .ok _ => none
      | .error (fault, line?) => some (⟨fault.message, line?⟩ : FormatDiagnostic)) =
      (scanText .code 1 [] source.toList).diagnostic? := by
  have noComment : ({} : State).scanner.CommentsCode := nofun
  have scanned := diagnostic?_scanText_intercalate tabWidth noComment
    (fun _ => Text.noFeed_of_mem_splitOn) legal
  rw [Text.intercalate_splitOn_newline] at scanned
  refine Eq.trans ?_ scanned.symm
  unfold formatList
  cases run tabWidth 1 {} (Text.lineLists source.toList) with
  | error fault => rfl
  | ok last =>
      rw [runVerdict, ← endFault?_eq]
      simp only [bind, Except.bind]
      cases endFault? last.scanner <;> rfl

theorem diagnostic?_eq_none_iff {verdict : Verdict} :
    verdict.diagnostic? = none ↔ verdict = .ended [] false := by
  cases verdict with
  | fault message line => simp [Verdict.diagnostic?]
  | ended openers inComment =>
      cases openers with
      | nil => cases inComment <;> simp [Verdict.diagnostic?]
      | cons opener others =>
          obtain ⟨delimiter, line⟩ := opener
          cases delimiter <;> simp [Verdict.diagnostic?]

end TypedClient.Layout

namespace TypedClient.Formatter

open Layout

/-- Layout accepts exactly the sources that a scan of the whole text finds balanced and outside
comments at its end. It refuses the others with the scan's first fault or, if there is none, for
the innermost opener that is never closed, or else for the block comment. -/
theorem layout_eq_scanText (source : String) (language : Language) (style : FormatStyle)
    (legal : DeclaresLegalNames source) :
    ((∃ formatted, layout source language style = .ok formatted) ↔
        scanText .code 1 [] source.toList = .ended [] false) ∧
      ∀ diagnostic, layout source language style = .error diagnostic ↔
        (scanText .code 1 [] source.toList).diagnostic? = some diagnostic := by
  have refusal := formatList_diagnostic? legal style.tabWidth
  rw [← diagnostic?_eq_none_iff, ← refusal]
  unfold layout
  cases formatList style.tabWidth source.toList with
  | ok formatted => simp
  | error fault => simp

/-- Neither the bracket of the comment nor the escaped backtick counts, and the blanks that
trimming cuts off do not either: the template literal of the first line is open at the end. -/
theorem layout_unterminated_template :
    layout "call(\x60a $\x7b [\n  // )\n  1 ] \x7d \\\x60 $ \r\n" .typeScript {} =
      .error ⟨"unterminated template literal", some 1⟩ :=
  ((layout_eq_scanText _ _ _ (declaresLegalNames_of_forall (by decide +kernel))).2 _).mpr
    (by decide +kernel)

end TypedClient.Formatter
