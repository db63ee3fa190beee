/-
# Scanning a whole text

Layout scans line after line and keeps in mind what the last character may begin. The
scanner here reads a text from end to end and looks ahead instead. It knows strings, which
end with their line, comments of both kinds, template literals with their interpolations,
and the three brackets. Within a line both go through the same regions.
-/

import TypedClient.Layout.Format

namespace TypedClient.Layout

/-- An open delimiter, with the line it was opened on. -/
structure Opener where
  delimiter : Delimiter
  line : Nat
  deriving DecidableEq, Repr

/-- What a character of a text belongs to. -/
inductive Region where
  | code
  | lineComment
  | blockComment
  /-- A string, up to its quote. -/
  | string (quote : Char)
  /-- The text of a template literal, outside its interpolations. -/
  | template
  deriving DecidableEq, Repr

/-- What scanning a text ends with: its first fault, or what is open at its end, innermost
first. -/
inductive Verdict where
  | fault (message : String) (line : Nat)
  | ended (openers : List Opener) (inComment : Bool)
  deriving DecidableEq, Repr

/-- The number of the line after a character. -/
def lineAfter (line : Nat) (c : Char) : Nat := if c = '\n' then line + 1 else line

/-- The region inside what is open. -/
def regionIn : List Opener → Region
  | ⟨.template, _⟩ :: _ => .template
  | _ => .code

/-- Closes the innermost delimiter by a bracket. Only its own bracket closes it. -/
def closeBy (closer : Char) : List Opener → Except String (List Opener)
  | [] => .error ("unexpected '" ++ closer.toString ++ "'")
  | opener :: others =>
    if opener.delimiter.closer? = some closer then .ok others
    else
      .error ("unexpected '" ++ closer.toString ++ "', '" ++ opener.delimiter.sign.toString ++
        "' opened on line " ++ toString opener.line ++ " is still open")

/-- Scans the rest of a text from a region and a line on. -/
def scanText : Region → (line : Nat) → List Opener → List Char → Verdict
  | .code, line, openers, '/' :: '/' :: rest => scanText .lineComment line openers rest
  | .code, line, openers, '/' :: '*' :: rest => scanText .blockComment line openers rest
  | .code, line, openers, '"' :: rest => scanText (.string '"') line openers rest
  | .code, line, openers, '\'' :: rest => scanText (.string '\'') line openers rest
  | .code, line, openers, '\x60' :: rest =>
    scanText .template line (⟨.template, line⟩ :: openers) rest
  | .code, line, openers, c :: rest =>
    match Delimiter.opened? c with
    | some delimiter => scanText .code line (⟨delimiter, line⟩ :: openers) rest
    | none =>
      if isCloser c then
        match closeBy c openers with
        | .ok others => scanText (regionIn others) line others rest
        | .error message => .fault message line
      else scanText .code (lineAfter line c) openers rest
  | .lineComment, line, openers, '\n' :: rest => scanText .code (line + 1) openers rest
  | .lineComment, line, openers, _ :: rest => scanText .lineComment line openers rest
  | .blockComment, line, openers, '*' :: '/' :: rest => scanText .code line openers rest
  | .blockComment, line, openers, c :: rest =>
    scanText .blockComment (lineAfter line c) openers rest
  | .string _, line, _, [] | .string _, line, _, ['\\'] | .string _, line, _, '\n' :: _
  | .string _, line, _, '\\' :: '\n' :: _ => .fault "unterminated string literal" line
  | .string quote, line, openers, '\\' :: _ :: rest => scanText (.string quote) line openers rest
  | .string quote, line, openers, c :: rest =>
    scanText (if c = quote then .code else .string quote) line openers rest
  | .template, line, openers, '\\' :: c :: rest =>
    scanText .template (lineAfter line c) openers rest
  | .template, line, openers, '\x60' :: rest =>
    scanText (regionIn openers.tail) line openers.tail rest
  | .template, line, openers, '$' :: '{' :: rest =>
    scanText .code line (⟨.interpolation, line⟩ :: openers) rest
  | .template, line, openers, c :: rest => scanText .template (lineAfter line c) openers rest
  | region, _, openers, [] => .ended openers (region = .blockComment)

/-- Why a text is refused. -/
def Verdict.diagnostic? : Verdict → Option FormatDiagnostic
  | .fault message line => some ⟨message, some line⟩
  | .ended (⟨.template, line⟩ :: _) _ => some ⟨"unterminated template literal", some line⟩
  | .ended (⟨delimiter, line⟩ :: _) _ =>
    some ⟨"unclosed '" ++ delimiter.sign.toString ++ "'", some line⟩
  | .ended [] true => some ⟨"unterminated block comment", none⟩
  | .ended [] false => none

/-! ## Characters without a meaning of their own -/

section

variable {c : Char} {line : Nat} {openers : List Opener} {rest : List Char}

attribute [local simp] scanText

theorem lineAfter_of_ne (noFeed : c ≠ '\n') (line : Nat) : lineAfter line c = line :=
  if_neg noFeed

theorem scanText_code_other
    (noComment : c = '/' → rest.head? ≠ some '/' ∧ rest.head? ≠ some '*')
    (notDouble : c ≠ '"') (notSingle : c ≠ '\'') (notBacktick : c ≠ '\x60') :
    scanText .code line openers (c :: rest) =
      match Delimiter.opened? c with
      | some delimiter => scanText .code line (⟨delimiter, line⟩ :: openers) rest
      | none =>
        if isCloser c then
          match closeBy c openers with
          | .ok others => scanText (regionIn others) line others rest
          | .error message => .fault message line
        else scanText .code (lineAfter line c) openers rest := by
  refine scanText.eq_6 _ _ _ _ ?_ ?_ notDouble notSingle notBacktick
  · rintro _ isSlash rfl
    exact (noComment isSlash).1 rfl
  · rintro _ isSlash rfl
    exact (noComment isSlash).2 rfl

theorem scanText_lineComment_other (noFeed : c ≠ '\n') :
    scanText .lineComment line openers (c :: rest) =
      scanText .lineComment line openers rest := by
  simp

theorem scanText_blockComment_other (noEnd : c = '*' → rest.head? ≠ some '/') :
    scanText .blockComment line openers (c :: rest) =
      scanText .blockComment (lineAfter line c) openers rest := by
  refine scanText.eq_10 _ _ _ _ ?_
  rintro _ isStar rfl
  exact noEnd isStar rfl

theorem scanText_string_escape {quote : Char} (noFeed : c ≠ '\n') :
    scanText (.string quote) line openers ('\\' :: c :: rest) =
      scanText (.string quote) line openers rest := by
  simp [noFeed]

theorem scanText_string_other {quote : Char} (noFeed : c ≠ '\n') (noEscape : c ≠ '\\') :
    scanText (.string quote) line openers (c :: rest) =
      scanText (if c = quote then .code else .string quote) line openers rest :=
  scanText.eq_16 _ _ _ _ _ (fun isEscape => absurd isEscape noEscape) noFeed
    (fun _ isEscape => absurd isEscape noEscape) (fun _ _ isEscape => absurd isEscape noEscape)

theorem scanText_template_other (noEscape : c ≠ '\\' ∨ rest = []) (notBacktick : c ≠ '\x60')
    (noInterpolation : c = '$' → rest.head? ≠ some '{') :
    scanText .template line openers (c :: rest) =
      scanText .template (lineAfter line c) openers rest := by
  refine scanText.eq_20 _ _ _ _ ?_ notBacktick ?_
  · rintro _ _ isEscape rfl
    exact noEscape.elim (absurd isEscape) (List.cons_ne_nil _ _)
  · rintro _ isDollar rfl
    exact noInterpolation isDollar rfl

end

/-! ## Regions of a line -/

/-- A frame without the level of its line. -/
def Frame.opener (frame : Frame) : Opener := ⟨frame.delimiter, frame.line⟩

namespace Scanner

/-- What is open, without levels. -/
def openers (scanner : Scanner) : List Opener := scanner.stack.map Frame.opener

/-- The region that a line begins in. -/
def region (scanner : Scanner) : Region :=
  if scanner.inComment then .blockComment else regionIn scanner.openers

/-- No block comment is open in the text of a template literal. -/
def CommentsCode (scanner : Scanner) : Prop :=
  scanner.inComment = true → scanner.inTemplate = false

end Scanner

namespace Mode

/-- The region of the next character. -/
def region (scanner : Scanner) : Mode → Region
  | .lineComment => .lineComment
  | .string quote | .stringEscape quote => .string quote
  | _ => scanner.region

/-- The character that is kept in mind. -/
def pending : Mode → List Char
  | .afterSlash => ['/']
  | .stringEscape _ | .templateEscape => ['\\']
  | .afterDollar => ['$']
  | .afterStar => ['*']
  | .plain | .lineComment | .string _ => []

/-- A mode arises in one region only, and quotes are no white space. -/
def Fits (scanner : Scanner) : Mode → Prop
  | .plain => scanner.CommentsCode
  | .afterSlash | .lineComment => scanner.region = .code
  | .string quote | .stringEscape quote =>
    scanner.region = .code ∧ Text.isWhiteSpace quote = false
  | .templateEscape | .afterDollar => scanner.region = .template
  | .afterStar => scanner.region = .blockComment ∧ scanner.CommentsCode

end Mode

variable {scanner : Scanner} {mode : Mode} {number level : Nat} {c : Char} {rest : List Char}

theorem regionIn_openers (scanner : Scanner) :
    regionIn scanner.openers = if scanner.inTemplate then .template else .code := by
  obtain ⟨stack, inComment⟩ := scanner
  cases stack with
  | nil => rfl
  | cons frame others =>
      obtain ⟨delimiter, line, level⟩ := frame
      cases delimiter <;> rfl

theorem region_eq_blockComment_iff :
    scanner.region = .blockComment ↔ scanner.inComment = true := by
  rw [Scanner.region, regionIn_openers]
  cases scanner.inComment <;> cases scanner.inTemplate <;> decide

theorem region_eq_template_iff :
    scanner.region = .template ↔ scanner.inComment = false ∧ scanner.inTemplate = true := by
  rw [Scanner.region, regionIn_openers]
  cases scanner.inComment <;> cases scanner.inTemplate <;> decide

theorem region_eq_code_iff :
    scanner.region = .code ↔ scanner.inComment = false ∧ scanner.inTemplate = false := by
  rw [Scanner.region, regionIn_openers]
  cases scanner.inComment <;> cases scanner.inTemplate <;> decide

theorem commentsCode_of_outside (outside : scanner.inComment = false) : scanner.CommentsCode :=
  fun inside => absurd (outside.symm.trans inside) (by decide)

theorem closeBy_openers (scanner : Scanner) (closer : Char) :
    closeBy closer scanner.openers =
      match scanner.close closer with
      | .ok after => .ok after.openers
      | .error fault => .error fault.message := by
  obtain ⟨stack, inComment⟩ := scanner
  cases stack with
  | nil => rfl
  | cons frame others =>
      by_cases fits : frame.delimiter.closer? = some closer
      · have closed : Scanner.close ⟨frame :: others, inComment⟩ closer =
            .ok ⟨others, inComment⟩ := if_pos fits
        rw [closed]
        exact if_pos fits
      · have closed : Scanner.close ⟨frame :: others, inComment⟩ closer =
            .error (.mismatched closer frame) := if_neg fits
        rw [closed]
        exact if_neg fits

theorem inComment_of_close {closer : Char} {after : Scanner}
    (closed : scanner.close closer = .ok after) : after.inComment = scanner.inComment := by
  unfold Scanner.close at closed
  split at closed
  · cases closed
  · split at closed
    · cases closed
      rfl
    · cases closed

/-! ## One character -/

/-- What scanning ends with after a character of a line was fed. -/
def verdictAfter (number : Nat) (rest : List Char) : Except Fault (Scanner × Mode) → Verdict
  | .error fault => .fault fault.message number
  | .ok (scanner, mode) =>
    scanText (mode.region scanner) number scanner.openers (mode.pending ++ rest)

theorem scanText_feedCode (noFeed : c ≠ '\n') (isCode : scanner.region = .code) :
    scanText .code number scanner.openers (c :: rest) =
      verdictAfter number rest (scanner.feedCode number level c) := by
  obtain ⟨outside, -⟩ := region_eq_code_iff.mp isCode
  unfold Scanner.feedCode
  split
  · simp only [verdictAfter, Mode.region, isCode]
    rfl
  · rfl
  · rfl
  · simp only [verdictAfter, Mode.region, Scanner.region, Scanner.push, outside]
    rfl
  · rename_i notSlash notDouble notSingle notBacktick
    rw [scanText_code_other (fun isSlash => absurd isSlash notSlash) notDouble notSingle
      notBacktick]
    cases opened : Delimiter.opened? c with
    | some delimiter =>
        have isBracket : delimiter ≠ .template := by
          rintro rfl
          unfold Delimiter.opened? at opened
          split at opened <;> cases opened
        simp only [verdictAfter, Mode.region, Scanner.region, Scanner.push, outside]
        cases delimiter <;> first | rfl | exact absurd rfl isBracket
    | none =>
        dsimp only
        split
        · rw [closeBy_openers]
          cases closed : scanner.close c with
          | error fault => rfl
          | ok after =>
              have stays := (inComment_of_close closed).trans outside
              simp only [Except.map, verdictAfter, Mode.region, Scanner.region, stays]
              rfl
        · rw [lineAfter_of_ne noFeed]
          simp only [verdictAfter, Mode.region, isCode]
          rfl

theorem scanText_feedTemplate (noFeed : c ≠ '\n') (isTemplate : scanner.region = .template) :
    scanText .template number scanner.openers (c :: rest) =
      verdictAfter number rest (.ok (scanner.feedTemplate c)) := by
  obtain ⟨outside, -⟩ := region_eq_template_iff.mp isTemplate
  unfold Scanner.feedTemplate
  split
  · simp only [verdictAfter, Mode.region, isTemplate]
    rfl
  · simp only [verdictAfter, Mode.region, Scanner.region, Scanner.pop, outside, Scanner.openers,
      List.map_tail]
    rfl
  · simp only [verdictAfter, Mode.region, isTemplate]
    rfl
  · rename_i noEscape notBacktick notDollar
    rw [scanText_template_other (.inl noEscape) notBacktick
      (fun isDollar => absurd isDollar notDollar), lineAfter_of_ne noFeed]
    simp only [verdictAfter, Mode.region, isTemplate]
    rfl

theorem scanText_feedComment (noFeed : c ≠ '\n') (isComment : scanner.region = .blockComment) :
    scanText .blockComment number scanner.openers (c :: rest) =
      verdictAfter number rest (.ok (scanner.feedComment c)) := by
  unfold Scanner.feedComment
  by_cases isStar : c = '*'
  · simp only [isStar, beq_self_eq_true, if_true, verdictAfter, Mode.region, isComment]
    rfl
  · rw [scanText_blockComment_other (fun star => absurd star isStar), lineAfter_of_ne noFeed]
    simp only [beq_iff_eq, isStar, if_false, verdictAfter, Mode.region, isComment]
    rfl

/-- To scan on is to feed the next character, with the one kept in mind before it. -/
theorem scanText_feed (fits : mode.Fits scanner) (noFeed : c ≠ '\n') :
    scanText (mode.region scanner) number scanner.openers (mode.pending ++ c :: rest) =
      verdictAfter number rest (Scanner.feed number level (scanner, mode) c) := by
  cases mode with
  | plain =>
      simp only [Mode.region, Mode.pending, List.nil_append, Scanner.feed]
      cases inComment : scanner.inComment with
      | true =>
          have isComment := region_eq_blockComment_iff.mpr inComment
          rw [isComment]
          exact scanText_feedComment noFeed isComment
      | false =>
          cases inTemplate : scanner.inTemplate with
          | true =>
              have isTemplate := region_eq_template_iff.mpr ⟨inComment, inTemplate⟩
              rw [isTemplate]
              exact scanText_feedTemplate noFeed isTemplate
          | false =>
              have isCode := region_eq_code_iff.mpr ⟨inComment, inTemplate⟩
              rw [isCode]
              exact scanText_feedCode noFeed isCode
  | afterSlash =>
      have isCode : scanner.region = .code := fits
      simp only [Mode.region, isCode, Mode.pending, Scanner.feed, beq_iff_eq]
      by_cases isSlash : c = '/'
      · subst isSlash
        rfl
      · by_cases isStar : c = '*'
        · subst isStar
          rfl
        · rw [if_neg isSlash, if_neg isStar, ← scanText_feedCode noFeed isCode]
          have noComment : (c :: rest).head? ≠ some '/' ∧ (c :: rest).head? ≠ some '*' := by
            simp [isSlash, isStar]
          exact scanText_code_other (fun _ => noComment) (by decide) (by decide) (by decide)
  | lineComment => exact scanText_lineComment_other noFeed
  | string quote =>
      have isCode : scanner.region = .code := fits.1
      by_cases isEscape : c = '\\'
      · subst isEscape
        rfl
      · refine (scanText_string_other noFeed isEscape).trans ?_
        simp only [Scanner.feed, beq_iff_eq, isEscape, if_false]
        by_cases isQuote : c = quote
        · simp only [isQuote, if_true, verdictAfter, Mode.region, isCode]
          rfl
        · simp only [isQuote, if_false]
          rfl
  | stringEscape quote => exact scanText_string_escape noFeed
  | templateEscape =>
      have isTemplate : scanner.region = .template := fits
      simp only [Mode.region, isTemplate, Scanner.feed, verdictAfter]
      exact congrArg (scanText .template · scanner.openers rest) (lineAfter_of_ne noFeed number)
  | afterDollar =>
      have isTemplate : scanner.region = .template := fits
      simp only [Mode.region, isTemplate, Mode.pending, Scanner.feed, beq_iff_eq]
      by_cases isBrace : c = '{'
      · subst isBrace
        obtain ⟨outside, -⟩ := region_eq_template_iff.mp isTemplate
        simp only [if_true, verdictAfter, Mode.region, Scanner.region, Scanner.push, outside]
        rfl
      · rw [if_neg isBrace, ← scanText_feedTemplate noFeed isTemplate]
        have noInterpolation : (c :: rest).head? ≠ some '{' := by simp [isBrace]
        exact scanText_template_other (.inl (by decide)) (by decide) (fun _ => noInterpolation)
  | afterStar =>
      obtain ⟨isComment, commentsCode⟩ := fits
      simp only [Mode.region, isComment, Mode.pending, Scanner.feed, beq_iff_eq]
      by_cases isSlash : c = '/'
      · have outside := commentsCode (region_eq_blockComment_iff.mp isComment)
        have isCode : regionIn scanner.openers = .code := by
          rw [regionIn_openers, outside]
          rfl
        subst isSlash
        refine (scanText.eq_9 ..).trans ?_
        rw [← isCode]
        rfl
      · rw [if_neg isSlash, ← scanText_feedComment noFeed isComment]
        have noEnd : (c :: rest).head? ≠ some '/' := by simp [isSlash]
        exact scanText_blockComment_other (fun _ => noEnd)

/-! ## Modes stay in their regions -/

theorem fits_feedCode (isCode : scanner.region = .code) {after : Scanner} {next : Mode}
    (fed : scanner.feedCode number level c = .ok (after, next)) : next.Fits after := by
  obtain ⟨outside, -⟩ := region_eq_code_iff.mp isCode
  unfold Scanner.feedCode at fed
  split at fed
  · cases fed
    exact isCode
  · cases fed
    exact ⟨isCode, by decide⟩
  · cases fed
    exact ⟨isCode, by decide⟩
  · cases fed
    exact commentsCode_of_outside outside
  · split at fed
    · cases fed
      exact commentsCode_of_outside outside
    · split at fed
      · cases closed : scanner.close c with
        | error fault =>
            rw [closed] at fed
            cases fed
        | ok inner =>
            rw [closed] at fed
            cases fed
            exact commentsCode_of_outside ((inComment_of_close closed).trans outside)
      · cases fed
        exact commentsCode_of_outside outside

theorem fits_feedTemplate (isTemplate : scanner.region = .template) (c : Char) :
    (scanner.feedTemplate c).2.Fits (scanner.feedTemplate c).1 := by
  obtain ⟨outside, -⟩ := region_eq_template_iff.mp isTemplate
  unfold Scanner.feedTemplate
  split
  · exact isTemplate
  · exact commentsCode_of_outside outside
  · exact isTemplate
  · exact commentsCode_of_outside outside

theorem fits_feedComment (isComment : scanner.region = .blockComment)
    (commentsCode : scanner.CommentsCode) (c : Char) :
    (scanner.feedComment c).2.Fits (scanner.feedComment c).1 := by
  unfold Scanner.feedComment
  by_cases isStar : c = '*'
  · simp only [isStar, beq_self_eq_true, if_true]
    exact ⟨isComment, commentsCode⟩
  · simp only [beq_iff_eq, isStar, if_false]
    exact commentsCode

theorem fits_feed (fits : mode.Fits scanner) {after : Scanner} {next : Mode}
    (fed : Scanner.feed number level (scanner, mode) c = .ok (after, next)) : next.Fits after := by
  cases mode with
  | plain =>
      simp only [Scanner.feed] at fed
      split at fed
      · rename_i inComment
        cases fed
        exact fits_feedComment (region_eq_blockComment_iff.mpr inComment) fits c
      · rename_i outside
        rw [Bool.not_eq_true] at outside
        split at fed
        · rename_i inTemplate
          have fitsNext := fits_feedTemplate (region_eq_template_iff.mpr ⟨outside, inTemplate⟩) c
          rwa [Except.ok.inj fed] at fitsNext
        · rename_i notTemplate
          rw [Bool.not_eq_true] at notTemplate
          exact fits_feedCode (region_eq_code_iff.mpr ⟨outside, notTemplate⟩) fed
  | afterSlash =>
      have isCode : scanner.region = .code := fits
      simp only [Scanner.feed] at fed
      split at fed
      · cases fed
        exact isCode
      · split at fed
        · cases fed
          exact fun _ => (region_eq_code_iff.mp isCode).2
        · exact fits_feedCode isCode fed
  | lineComment =>
      cases fed
      exact fits
  | string quote =>
      cases fed
      split
      · exact fits
      · split
        · exact commentsCode_of_outside (region_eq_code_iff.mp fits.1).1
        · exact fits
  | stringEscape quote =>
      cases fed
      exact fits
  | templateEscape =>
      cases fed
      exact commentsCode_of_outside (region_eq_template_iff.mp fits).1
  | afterDollar =>
      simp only [Scanner.feed] at fed
      split at fed
      · cases fed
        exact commentsCode_of_outside (region_eq_template_iff.mp fits).1
      · have fitsNext := fits_feedTemplate fits c
        rwa [Except.ok.inj fed] at fitsNext
  | afterStar =>
      simp only [Scanner.feed] at fed
      split at fed
      · cases fed
        exact commentsCode_of_outside rfl
      · cases fed
        exact fits_feedComment fits.1 fits.2 c

theorem fits_foldlM {line : List Char} (fits : mode.Fits scanner) {after : Scanner} {next : Mode}
    (fed : line.foldlM (Scanner.feed number level) (scanner, mode) = .ok (after, next)) :
    next.Fits after := by
  induction line generalizing scanner mode with
  | nil =>
      cases fed
      exact fits
  | cons c line ih =>
      rw [List.foldlM_cons] at fed
      cases first : Scanner.feed number level (scanner, mode) c with
      | error fault =>
          rw [first] at fed
          cases fed
      | ok state =>
          rw [first] at fed
          exact ih (fits_feed fits first) fed

/-! ## The end of a line -/

/-- What follows a line: nothing, or a line feed. -/
def EndsLine (rest : List Char) : Prop := ∀ c ∈ rest.head?, c = '\n'

theorem EndsLine.head?_ne (ends : EndsLine rest) (differs : c ≠ '\n') : rest.head? ≠ some c :=
  fun isHead => differs (ends c isHead)

theorem EndsLine.cases (ends : EndsLine rest) : rest = [] ∨ ∃ tail, rest = '\n' :: tail := by
  cases rest with
  | nil => exact .inl rfl
  | cons c tail => exact .inr ⟨tail, by rw [ends c rfl]⟩

theorem scanText_newline (scanner : Scanner) (number : Nat) (rest : List Char) :
    scanText scanner.region number scanner.openers ('\n' :: rest) =
      scanText scanner.region (number + 1) scanner.openers rest := by
  rw [Scanner.region, regionIn_openers]
  cases scanner.inComment with
  | true => rfl
  | false => cases scanner.inTemplate <;> rfl

theorem scanText_nil (scanner : Scanner) (number : Nat) :
    scanText scanner.region number scanner.openers [] =
      .ended scanner.openers scanner.inComment := by
  rw [Scanner.region, regionIn_openers]
  cases scanner.inComment <;> cases scanner.inTemplate <;> rfl

/-- At the end of a line nothing is kept in mind, and no string may be open. -/
theorem scanText_endLine (fits : mode.Fits scanner) (ends : EndsLine rest) :
    scanText (mode.region scanner) number scanner.openers (mode.pending ++ rest) =
      match Scanner.endLine (scanner, mode) with
      | .error fault => .fault fault.message number
      | .ok after => scanText after.region number after.openers rest := by
  cases mode with
  | plain => rfl
  | afterSlash =>
      have isCode : scanner.region = .code := fits
      simp only [Mode.region, isCode, Mode.pending, Scanner.endLine]
      exact scanText_code_other
        (fun _ => ⟨ends.head?_ne (by decide), ends.head?_ne (by decide)⟩)
        (by decide) (by decide) (by decide)
  | lineComment =>
      have isCode : scanner.region = .code := fits
      simp only [Mode.region, isCode, Mode.pending, Scanner.endLine]
      rcases ends.cases with rfl | ⟨tail, rfl⟩ <;> rfl
  | string quote => rcases ends.cases with rfl | ⟨tail, rfl⟩ <;> rfl
  | stringEscape quote => rcases ends.cases with rfl | ⟨tail, rfl⟩ <;> rfl
  | templateEscape =>
      have isTemplate : scanner.region = .template := fits
      simp only [Mode.region, isTemplate, Mode.pending, Scanner.endLine]
      rcases ends.cases with rfl | ⟨tail, rfl⟩ <;> rfl
  | afterDollar =>
      have isTemplate : scanner.region = .template := fits
      simp only [Mode.region, isTemplate, Mode.pending, Scanner.endLine]
      exact scanText_template_other (.inl (by decide)) (by decide)
        (fun _ => ends.head?_ne (by decide))
  | afterStar =>
      have isComment : scanner.region = .blockComment := fits.1
      simp only [Mode.region, isComment, Mode.pending, Scanner.endLine]
      exact scanText_blockComment_other (fun _ => ends.head?_ne (by decide))

/-- Scanning goes through the rest of a line as through the line by itself. -/
theorem scanText_foldlM {line : List Char} (noFeed : '\n' ∉ line) (ends : EndsLine rest)
    (fits : mode.Fits scanner) :
    scanText (mode.region scanner) number scanner.openers (mode.pending ++ (line ++ rest)) =
      match line.foldlM (Scanner.feed number level) (scanner, mode) >>= Scanner.endLine with
      | .error fault => .fault fault.message number
      | .ok after => scanText after.region number after.openers rest := by
  induction line generalizing scanner mode with
  | nil => exact scanText_endLine fits ends
  | cons c line ih =>
      obtain ⟨isOther, noFeed⟩ := not_or.mp (mt List.mem_cons.mpr noFeed)
      rw [List.cons_append, scanText_feed fits (Ne.symm isOther), List.foldlM_cons]
      cases fed : Scanner.feed number level (scanner, mode) c with
      | error fault => rfl
      | ok next => exact ih noFeed (fits_feed fits fed)

/-- Scanning goes through a line as through the line by itself. -/
theorem scanText_line {line : List Char} (commentsCode : scanner.CommentsCode)
    (noFeed : '\n' ∉ line) (ends : EndsLine rest) (number level : Nat) :
    scanText scanner.region number scanner.openers (line ++ rest) =
      match scanner.scanLine number level line with
      | .error fault => .fault fault.message number
      | .ok after => scanText after.region number after.openers rest :=
  scanText_foldlM noFeed ends (show Mode.plain.Fits scanner from commentsCode)

theorem commentsCode_of_scanLine {line : List Char} {after : Scanner}
    (commentsCode : scanner.CommentsCode)
    (scanned : scanner.scanLine number level line = .ok after) : after.CommentsCode := by
  unfold Scanner.scanLine at scanned
  cases fed : line.foldlM (Scanner.feed number level) (scanner, .plain) with
  | error fault =>
      rw [fed] at scanned
      cases scanned
  | ok state =>
      obtain ⟨inner, mode⟩ := state
      have fits := fits_foldlM (show Mode.plain.Fits scanner from commentsCode) fed
      rw [fed] at scanned
      cases mode with
      | plain =>
          cases scanned
          exact fits
      | afterSlash | lineComment =>
          cases scanned
          exact commentsCode_of_outside (region_eq_code_iff.mp fits).1
      | string | stringEscape => cases scanned
      | templateEscape | afterDollar =>
          cases scanned
          exact commentsCode_of_outside (region_eq_template_iff.mp fits).1
      | afterStar =>
          cases scanned
          exact fits.2

end TypedClient.Layout
