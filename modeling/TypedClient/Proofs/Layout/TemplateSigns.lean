/-
# Template literals of a text

What a text has of template literals is told by scanning it from end to end: where one opens and
closes, the characters of its text, and where an interpolation begins. Within a line this is told by
scanning the line by itself, whatever its number is. Blanks in front of a line of code have no part
in it, and blanks after it only if the line leaves a template literal open.
-/

import TypedClient.Proofs.Layout.Similar
import TypedClient.Proofs.Layout.WholeText

namespace TypedClient.Layout

/-! ## Template literals of a text -/

/-- What is open at the end of a scan, innermost first, unless it ends in a string or a block
comment. -/
def Verdict.open? : Verdict → Option (List Delimiter)
  | .ended openers false => some (openers.map (·.delimiter))
  | _ => none

/-- What is open after a text. -/
def openAfter (text : List Char) : Option (List Delimiter) := (scanText .code 1 [] text).open?

/-- What a character is to template literals. -/
inductive TemplateSign where
  /-- It opens one. -/
  | opens
  /-- It belongs to the text of one. -/
  | text (c : Char)
  /-- It begins an interpolation, after a dollar sign in the text. -/
  | interpolation
  /-- It closes one. -/
  | closes
  deriving DecidableEq, Repr

/-- What a character is to template literals, given what is open before and after it. -/
def templateSign? (c : Char) : (before after : Option (List Delimiter)) → Option TemplateSign
  | some (.template :: outer), some inner =>
    if inner = .template :: outer then some (.text c)
    else if inner = outer then some .closes
    else some .interpolation
  | some outer, some (.template :: inner) => if inner = outer then some .opens else none
  | _, _ => none

/-- The signs of a text, given what is open after each beginning of it. -/
def signsAlong (opened : List Char → Option (List Delimiter)) : List Char → List TemplateSign
  | [] => []
  | c :: rest =>
    (templateSign? c (opened []) (opened [c])).toList ++
      signsAlong (fun more => opened (c :: more)) rest

/-- The template literals of a text, sign by sign. Those inside an interpolation stand between the
signs of the literal around them. -/
def templateSigns (text : List Char) : List TemplateSign := signsAlong openAfter text

/-- Whether the text of a template literal is open. -/
def IsTemplate (opened? : Option (List Delimiter)) : Prop :=
  ∃ outer, opened? = some (.template :: outer)

/-- Whether a text ends inside the text of a template literal. -/
def EndsInTemplate (text : List Char) : Prop := IsTemplate (openAfter text)

/-! ## Signs along a text -/

section

variable {opened other : List Char → Option (List Delimiter)}

theorem signsAlong_append (opened : List Char → Option (List Delimiter))
    (first second : List Char) :
    signsAlong opened (first ++ second) =
      signsAlong opened first ++ signsAlong (fun more => opened (first ++ more)) second := by
  induction first generalizing opened with
  | nil => rfl
  | cons c first ih =>
      rw [List.cons_append, signsAlong, signsAlong, ih, List.append_assoc]
      rfl

/-- Only the beginnings of a text count. -/
theorem signsAlong_congr {text : List Char} (same : ∀ start, start <+: text →
    opened start = other start) : signsAlong opened text = signsAlong other text := by
  induction text generalizing opened other with
  | nil => rfl
  | cons c rest ih =>
      have tail : signsAlong (fun more => opened (c :: more)) rest =
          signsAlong (fun more => other (c :: more)) rest :=
        ih fun start isStart => same (c :: start) (List.cons_prefix_cons.mpr ⟨rfl, isStart⟩)
      have single : [c] <+: c :: rest := ⟨rest, rfl⟩
      rw [signsAlong, signsAlong, same [] List.nil_prefix, same [c] single, tail]

theorem templateSign?_inside (c : Char) {opened? : Option (List Delimiter)}
    (inside : IsTemplate opened?) : templateSign? c opened? opened? = some (.text c) := by
  obtain ⟨outer, rfl⟩ := inside
  exact if_pos rfl

theorem templateSign?_outside (c : Char) {before after : Option (List Delimiter)}
    (outside : ¬ IsTemplate before) (stays : ¬ IsTemplate after) :
    templateSign? c before after = none := by
  unfold templateSign?
  split
  · rename_i outer _
    exact absurd ⟨outer, rfl⟩ outside
  · rename_i inner _
    exact absurd ⟨inner, rfl⟩ stays
  · rfl

/-- Every character of a stretch inside a template literal is one of its text. -/
theorem signsAlong_inside {opened? : Option (List Delimiter)} (inside : IsTemplate opened?)
    {text : List Char} (stays : ∀ start, start <+: text → opened start = opened?) :
    signsAlong opened text = text.map .text := by
  induction text generalizing opened with
  | nil => rfl
  | cons c rest ih =>
      have tail : signsAlong (fun more => opened (c :: more)) rest = rest.map .text :=
        ih fun start isStart => stays (c :: start) (List.cons_prefix_cons.mpr ⟨rfl, isStart⟩)
      have single : [c] <+: c :: rest := ⟨rest, rfl⟩
      rw [signsAlong, stays [] List.nil_prefix, stays [c] single,
        templateSign?_inside c inside, tail]
      rfl

/-- A stretch outside template literals has no signs. -/
theorem signsAlong_outside {text : List Char}
    (outside : ∀ start, start <+: text → ¬ IsTemplate (opened start)) :
    signsAlong opened text = [] := by
  induction text generalizing opened with
  | nil => rfl
  | cons c rest ih =>
      have tail : signsAlong (fun more => opened (c :: more)) rest = [] :=
        ih fun start isStart => outside (c :: start) (List.cons_prefix_cons.mpr ⟨rfl, isStart⟩)
      have single : [c] <+: c :: rest := ⟨rest, rfl⟩
      rw [signsAlong, templateSign?_outside c (outside [] List.nil_prefix) (outside [c] single),
        tail]
      rfl

end

/-! ## Signs of a line -/

namespace Scanner

/-- What is open, unless it is a block comment. -/
def open? (scanner : Scanner) : Option (List Delimiter) :=
  if scanner.inComment then none else some (scanner.stack.map (·.delimiter))

/-- What is open after a text that begins where a scanner stands. -/
def openFrom (scanner : Scanner) (number : Nat) (text : List Char) : Option (List Delimiter) :=
  (scanText scanner.region number scanner.openers text).open?

variable {scanner after other : Scanner} {number level : Nat} {line blanks : List Char}

theorem open?_ended (scanner : Scanner) :
    (Verdict.ended scanner.openers scanner.inComment).open? = scanner.open? := by
  obtain ⟨stack, inComment⟩ := scanner
  cases inComment with
  | true => rfl
  | false =>
      rw [Verdict.open?, openers, List.map_map]
      rfl

/-- No comment is open inside a template literal, so what is innermost tells. -/
theorem isTemplate_open?_iff (commentsCode : scanner.CommentsCode) :
    IsTemplate scanner.open? ↔ scanner.inTemplate = true := by
  obtain ⟨stack, inComment⟩ := scanner
  constructor
  · rintro ⟨outer, isOpen⟩
    cases inComment with
    | true => cases isOpen
    | false =>
        cases stack with
        | nil => cases isOpen
        | cons frame others =>
            have isTemplate := (List.cons.inj (Option.some.inj isOpen)).1
            exact beq_iff_eq.mpr isTemplate
  · intro inTemplate
    have outside : inComment = false := by
      cases inComment with
      | true => cases (commentsCode rfl).symm.trans inTemplate
      | false => rfl
    subst outside
    cases stack with
    | nil => cases inTemplate
    | cons frame others =>
        refine ⟨others.map (·.delimiter), ?_⟩
        rw [open?, List.map_cons, beq_iff_eq.mp inTemplate]
        rfl

theorem openFrom_nil (scanner : Scanner) (number : Nat) :
    scanner.openFrom number [] = scanner.open? := by
  rw [openFrom, scanText_nil, open?_ended]

/-- What a line leaves open is told by scanning the line by itself. -/
theorem openFrom_line (commentsCode : scanner.CommentsCode) (noFeed : '\n' ∉ line)
    (number level : Nat) :
    scanner.openFrom number line =
      match scanner.scanLine number level line with
      | .error _ => none
      | .ok after => after.open? := by
  have scanned := scanText_line commentsCode noFeed (show EndsLine [] from nofun) number level
  rw [List.append_nil] at scanned
  rw [openFrom, scanned]
  cases scanner.scanLine number level line with
  | error fault => rfl
  | ok after => exact openFrom_nil after number

theorem openFrom_of_scanLine (commentsCode : scanner.CommentsCode) (noFeed : '\n' ∉ line)
    (scanned : scanner.scanLine number level line = .ok after) :
    scanner.openFrom number line = after.open? := by
  rw [openFrom_line commentsCode noFeed number level, scanned]

/-- What follows a line goes on where the line ends. -/
theorem openFrom_line_newline (commentsCode : scanner.CommentsCode) (noFeed : '\n' ∉ line)
    (scanned : scanner.scanLine number level line = .ok after) (more : List Char) :
    scanner.openFrom number (line ++ '\n' :: more) = after.openFrom (number + 1) more := by
  have ends : EndsLine ('\n' :: more) := by
    rintro c ⟨⟩
    rfl
  rw [openFrom, scanText_line commentsCode noFeed ends number level, scanned]
  exact congrArg Verdict.open? (scanText_newline after number more)

/-- The signs of a line are those of its characters and that of its line feed. -/
theorem signsAlong_line_newline (commentsCode : scanner.CommentsCode) (noFeed : '\n' ∉ line)
    (scanned : scanner.scanLine number level line = .ok after) :
    signsAlong (scanner.openFrom number) (line ++ ['\n']) =
      signsAlong (scanner.openFrom number) line ++
        (templateSign? '\n' after.open? after.open?).toList := by
  have atEnd := openFrom_of_scanLine commentsCode noFeed scanned
  have beyond := openFrom_line_newline commentsCode noFeed scanned []
  rw [openFrom_nil] at beyond
  rw [signsAlong_append, signsAlong, signsAlong, List.append_nil, List.append_nil, atEnd, beyond]

/-! ## Blanks around a line -/

theorem scanLine_blanks (commentsCode : scanner.CommentsCode)
    (blank : ∀ c ∈ blanks, Text.isWhiteSpace c = true) :
    scanner.scanLine number level blanks = .ok scanner := by
  have scanned : scanner.scanLine number level (blanks ++ []) = .ok scanner :=
    (scanLine_blanks_append commentsCode blank).trans (scanLine_nil scanner)
  rwa [List.append_nil] at scanned

/-- Blanks in front of a line outside template literals have no signs. -/
theorem signsAlong_blanks_append (commentsCode : scanner.CommentsCode)
    (blank : ∀ c ∈ blanks, Text.isWhiteSpace c = true) (noFeed : '\n' ∉ blanks ++ line)
    (outside : ¬ IsTemplate scanner.open?) :
    signsAlong (scanner.openFrom number) (blanks ++ line) =
      signsAlong (scanner.openFrom number) line := by
  rw [List.mem_append, not_or] at noFeed
  have noSigns : signsAlong (scanner.openFrom number) blanks = [] := by
    refine signsAlong_outside fun start isStart => ?_
    have scanned : scanner.scanLine number 0 start = .ok scanner :=
      scanLine_blanks commentsCode fun c member => blank c (isStart.subset member)
    rw [openFrom_of_scanLine commentsCode (fun member => noFeed.1 (isStart.subset member)) scanned]
    exact outside
  rw [signsAlong_append, noSigns, List.nil_append]
  refine signsAlong_congr fun start isStart => ?_
  have noFeedStart : '\n' ∉ start := fun member => noFeed.2 (isStart.subset member)
  rw [openFrom_line commentsCode (by simp [noFeed.1, noFeedStart]) number 0,
    openFrom_line commentsCode noFeedStart number 0, scanLine_blanks_append commentsCode blank]

/-- Blanks after a line are text of the template literal that the line leaves open. -/
theorem signsAlong_append_blanks (commentsCode : scanner.CommentsCode)
    (blank : ∀ c ∈ blanks, Text.isWhiteSpace c = true) (noFeed : '\n' ∉ line ++ blanks)
    (scanned : scanner.scanLine number level line = .ok after) :
    signsAlong (scanner.openFrom number) (line ++ blanks) =
      signsAlong (scanner.openFrom number) line ++
        (if after.inTemplate then blanks else []).map .text := by
  have commentsCodeAfter := commentsCode_of_scanLine commentsCode scanned
  have stays : ∀ start, start <+: blanks →
      scanner.openFrom number (line ++ start) = after.open? := by
    intro start isStart
    have blankStart : ∀ c ∈ start, Text.isWhiteSpace c = true :=
      fun c member => blank c (isStart.subset member)
    have noFeedStart : '\n' ∉ line ++ start := by
      intro member
      refine noFeed (List.mem_append.mpr ?_)
      exact (List.mem_append.mp member).imp_right fun inStart => isStart.subset inStart
    have scannedStart : scanner.scanLine number level (line ++ start) = .ok after :=
      (scanLine_append_blanks commentsCode blankStart).trans scanned
    exact openFrom_of_scanLine commentsCode noFeedStart scannedStart
  rw [signsAlong_append]
  refine congrArg (signsAlong (scanner.openFrom number) line ++ ·) ?_
  by_cases inside : after.inTemplate = true
  · rw [if_pos inside]
    exact signsAlong_inside ((isTemplate_open?_iff commentsCodeAfter).mpr inside) stays
  · rw [if_neg inside]
    refine signsAlong_outside fun start isStart => ?_
    rw [stays start isStart, isTemplate_open?_iff commentsCodeAfter]
    exact inside

/-- The signs of a line outside template literals, with blanks around it. -/
theorem signsAlong_around {before line blanks : List Char} (commentsCode : scanner.CommentsCode)
    (blankBefore : ∀ c ∈ before, Text.isWhiteSpace c = true)
    (blank : ∀ c ∈ blanks, Text.isWhiteSpace c = true) (noFeed : '\n' ∉ before ++ line ++ blanks)
    (outside : scanner.inTemplate = false)
    (scanned : scanner.scanLine number level line = .ok after) :
    signsAlong (scanner.openFrom number) (before ++ line ++ blanks ++ ['\n']) =
      signsAlong (scanner.openFrom number) line ++
        (if after.inTemplate then blanks else []).map .text ++
          (templateSign? '\n' after.open? after.open?).toList := by
  have whole : scanner.scanLine number level (before ++ line ++ blanks) = .ok after := by
    rw [List.append_assoc, scanLine_blanks_append commentsCode blankBefore,
      scanLine_append_blanks commentsCode blank, scanned]
  have notTemplate : ¬ IsTemplate scanner.open? := by
    rw [isTemplate_open?_iff commentsCode, outside]
    exact Bool.false_ne_true
  rw [signsAlong_line_newline commentsCode noFeed whole]
  rw [List.append_assoc] at noFeed ⊢
  rw [signsAlong_blanks_append commentsCode blankBefore noFeed notTemplate,
    signsAlong_append_blanks commentsCode blank
      (fun member => noFeed (List.mem_append_right before member)) scanned]

/-! ## Line numbers -/

namespace Similar

theorem symm (similar : scanner.Similar other) : other.Similar scanner :=
  ⟨similar.frames.flip.imp fun _ _ same => ⟨same.delimiter.symm, same.level.symm⟩,
    similar.comment.symm⟩

theorem commentsCode (similar : scanner.Similar other) (commentsCode : scanner.CommentsCode) :
    other.CommentsCode := by
  intro inComment
  rw [← similar.inTemplate]
  exact commentsCode (similar.comment.trans inComment)

theorem open?_eq (similar : scanner.Similar other) : scanner.open? = other.open? := by
  have delimiters : scanner.stack.map (·.delimiter) = other.stack.map (·.delimiter) := by
    have frames := similar.frames
    generalize scanner.stack = first at frames ⊢
    generalize other.stack = second at frames ⊢
    induction frames with
    | nil => rfl
    | cons same _ ih => rw [List.map_cons, List.map_cons, same.delimiter, ih]
  rw [open?, open?, similar.comment, delimiters]

/-- What is open within a line does not depend on line numbers. -/
theorem openFrom_eq (similar : scanner.Similar other) (commentsCode : scanner.CommentsCode)
    (noFeed : '\n' ∉ line) (number number' : Nat) :
    scanner.openFrom number line = other.openFrom number' line := by
  rw [openFrom_line commentsCode noFeed number 0,
    openFrom_line (similar.commentsCode commentsCode) noFeed number' 0]
  cases scanned : scanner.scanLine number 0 line with
  | ok after =>
      obtain ⟨after', scanned', similar'⟩ := scanLine_similar similar number number' 0 line scanned
      rw [scanned']
      exact similar'.open?_eq
  | error fault =>
      cases scanned' : other.scanLine number' 0 line with
      | error fault' => rfl
      | ok after' =>
          obtain ⟨after, isOk, -⟩ := scanLine_similar similar.symm number' number 0 line scanned'
          cases scanned.symm.trans isOk

theorem signsAlong_eq (similar : scanner.Similar other) (commentsCode : scanner.CommentsCode)
    (noFeed : '\n' ∉ line) (number number' : Nat) :
    signsAlong (scanner.openFrom number) line = signsAlong (other.openFrom number') line :=
  signsAlong_congr fun _ isStart =>
    similar.openFrom_eq commentsCode (fun member => noFeed (isStart.subset member)) number number'

end Similar

end Scanner

end TypedClient.Layout
