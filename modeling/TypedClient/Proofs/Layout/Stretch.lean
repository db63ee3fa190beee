/-
# Stretches of lines that layout keeps

A stretch of lines is kept by layout if, from any state that stands in code at the
right level, layout accepts every line, prints it without its trailing white space,
and comes back to where it stood. Stretches compose, a block is a stretch with lines
around it that open and close the same delimiters, and a comment is a stretch.
-/

import TypedClient.Proofs.Layout.CodeLine

namespace TypedClient.Layout

open Code (indentation)

/-! ## Stretches of lines -/

/-- Lines that are accepted and printed without their trailing white space. -/
def LaidOut (arrow : Bool) (level : Nat) (lines : List (List Char)) : Prop :=
  ∀ (state : State) (number : Nat), state.Expects arrow level →
    run 2 number state lines =
      .ok { state with
        printed := (lines.map Text.trimEndList).reverse ++ state.printed
        afterArrow := false }

variable {arrow : Bool} {level : Nat} {first second : List (List Char)}

theorem laidOut_nil : LaidOut false level [] := by
  intro state number expects
  rw [run, List.map_nil, List.reverse_nil, List.nil_append, ← expects.afterArrow]

/-- Stretches one after the other. -/
theorem LaidOut.append (head : LaidOut arrow level first) (tail : LaidOut false level second) :
    LaidOut arrow level (first ++ second) := by
  intro state number expects
  let between : State :=
    { state with
      printed := (first.map Text.trimEndList).reverse ++ state.printed
      afterArrow := false }
  have expectsTail : between.Expects false level := ⟨expects.inCode, expects.inner, rfl⟩
  refine run_append_eq_ok_iff.mpr ⟨between, head state number expects, ?_⟩
  rw [tail between _ expectsTail]
  simp [between]

/-- One line that neither opens anything nor ends in an arrow. -/
theorem LaidOut.line {text : List Char} (code : CodeText text [])
    (noArrow : endsInArrow text = false) :
    LaidOut false level [(indentation level).toList ++ text] := by
  intro state number expects
  refine run_cons_eq_ok_iff.mpr ⟨_, code.step number expects rfl, ?_⟩
  rw [run, noArrow, List.map_singleton, trimEndList_indentation code.trimmed, ite_self]
  rfl

/-- Lines below a line that ends in an arrow. -/
theorem LaidOut.belowArrow {text : List Char} {lines : List (List Char)}
    (code : CodeText text []) (isCode : startsComment text = false)
    (isArrow : endsInArrow text = true) (below : LaidOut true level lines) :
    LaidOut false level (((indentation level).toList ++ text) :: lines) := by
  intro state number expects
  let next : State :=
    { scanner := state.scanner
      printed := ((indentation level).toList ++ text) :: state.printed
      afterArrow := true }
  have stepped : step 2 state number ((indentation level).toList ++ text) = .ok next := by
    rw [code.step number expects (Nat.add_zero level), isCode, isArrow]
    rfl
  have expectsBelow : next.Expects true level := ⟨expects.inCode, expects.inner, rfl⟩
  refine run_cons_eq_ok_iff.mpr ⟨next, stepped, ?_⟩
  rw [below next _ expectsBelow]
  simp [next, trimEndList_indentation code.trimmed]

/-! ## Blocks -/

/-- The brackets that close some delimiters. -/
def closersOf (delimiters : List Delimiter) : List Char :=
  delimiters.filterMap Delimiter.closer?

theorem isCloser_of_mem_closersOf {delimiters : List Delimiter} {c : Char}
    (member : c ∈ closersOf delimiters) : isCloser c = true := by
  obtain ⟨delimiter, -, closes⟩ := List.mem_filterMap.mp member
  rcases Delimiter.eq_of_closer? closes with rfl | rfl | rfl <;> rfl

theorem exists_closer? {delimiter : Delimiter} (code : delimiter ≠ .template) :
    ∃ c, delimiter.closer? = some c := by
  cases delimiter with
  | template => exact absurd rfl code
  | _ => exact ⟨_, rfl⟩

theorem length_closersOf {delimiters : List Delimiter} (code : .template ∉ delimiters) :
    (closersOf delimiters).length = delimiters.length := by
  apply List.filterMap_length_eq_length.mpr
  intro delimiter member
  obtain ⟨c, closes⟩ := exists_closer? fun same => code (same ▸ member)
  rw [closes]
  rfl

/-- Closing what was opened leads back to where it was opened. -/
theorem scans_closersOf {scanner : Scanner} (inCode : scanner.InCode) {delimiters : List Delimiter}
    (code : .template ∉ delimiters) (openedOn openedAt line level : Nat) :
    (closersOf delimiters).foldlM (Scanner.feed line level)
        (scanner.opened openedOn openedAt delimiters, .plain) = .ok (scanner, .plain) := by
  induction delimiters with
  | nil => rfl
  | cons delimiter rest ih =>
      have codeRest : .template ∉ rest := fun member => code (List.mem_cons_of_mem _ member)
      obtain ⟨c, closes⟩ := exists_closer? fun same => code (same ▸ List.mem_cons_self)
      have closed : Scanner.feed line level
          (scanner.opened openedOn openedAt (delimiter :: rest), .plain) c =
            .ok (scanner.opened openedOn openedAt rest, .plain) :=
        (inCode.opened code).feed_closer rfl closes
      rw [closersOf, List.filterMap_cons_some closes, Scanner.foldlM_cons_of_eq_ok closed]
      exact ih codeRest

/-- What follows the closing brackets of a block. -/
def IsBlockEnd (text : List Char) : Prop :=
  text = [] ∨ text = [';']

/-- A line that closes something is trimmed. -/
theorem isTrimmed_closing {delimiters : List Delimiter} {text : List Char}
    (code : .template ∉ delimiters) (nonempty : delimiters ≠ []) (isEnd : IsBlockEnd text) :
    Text.IsTrimmed (closersOf delimiters ++ text) := by
  have visible : ∀ c ∈ closersOf delimiters ++ text, Text.isWhiteSpace c = false := by
    intro c member
    rcases List.mem_append.mp member with inClosers | inText
    · obtain ⟨delimiter, -, closes⟩ := List.mem_filterMap.mp inClosers
      rcases Delimiter.eq_of_closer? closes with rfl | rfl | rfl <;> decide
    · rcases isEnd with rfl | rfl
      · cases inText
      · rw [List.mem_singleton.mp inText]
        decide
  refine ⟨fun empty => nonempty ?_, fun c first => visible c (List.mem_of_mem_head? first),
    fun c last => visible c (List.mem_of_mem_getLast? last)⟩
  rw [← List.length_eq_zero_iff, ← length_closersOf code, (List.append_eq_nil_iff.mp empty).1]
  rfl

/-- A line that closes something starts with a closing bracket. -/
theorem exists_closersOf_append {delimiters : List Delimiter} (code : .template ∉ delimiters)
    (nonempty : delimiters ≠ []) (text : List Char) :
    ∃ c rest, closersOf delimiters ++ text = c :: rest ∧ (c = ')' ∨ c = ']' ∨ c = '}') := by
  obtain ⟨delimiter, others, rfl⟩ := List.exists_cons_of_ne_nil nonempty
  obtain ⟨c, closes⟩ := exists_closer? fun same => code (same ▸ List.mem_cons_self)
  refine ⟨c, closersOf others ++ text, ?_, Delimiter.eq_of_closer? closes⟩
  rw [closersOf, List.filterMap_cons_some closes, List.cons_append, ← closersOf]

/-- A line that closes something does not end in an arrow. -/
theorem endsInArrow_closing {delimiters : List Delimiter} {text : List Char}
    (isEnd : IsBlockEnd text) : endsInArrow (closersOf delimiters ++ text) = false := by
  apply endsInArrow_of_last
  intro c last
  rcases List.mem_append.mp (List.mem_of_mem_getLast? last) with inClosers | inText
  · rintro rfl
    exact absurd (isCloser_of_mem_closersOf inClosers) (by decide)
  · rcases isEnd with rfl | rfl
    · cases inText
    · rw [List.mem_singleton.mp inText]
      decide

/-- A closing line stands where the outermost of what it closes was opened. -/
theorem levelOf_closersOf {state : State} {delimiters : List Delimiter}
    {stack : List Frame} {number place : Nat} {text : List Char} (code : .template ∉ delimiters)
    (nonempty : delimiters ≠ []) (inComment : state.scanner.inComment = false)
    (isStack : state.scanner.stack = delimiters.map (⟨·, number, place⟩) ++ stack)
    (isEnd : IsBlockEnd text) : levelOf state (closersOf delimiters ++ text) = place := by
  have closers : leadingClosers (closersOf delimiters ++ text) = delimiters.length := by
    rw [leadingClosers, List.takeWhile_append_of_pos fun c => isCloser_of_mem_closersOf,
      ← length_closersOf code]
    rcases isEnd with rfl | rfl
    · rw [List.takeWhile_nil, List.append_nil]
    · simp [isCloser]
  obtain ⟨last, isLast⟩ : ∃ last, delimiters.length = last + 1 :=
    ⟨_, (Nat.sub_add_cancel (List.length_pos_of_ne_nil nonempty)).symm⟩
  have found : (state.scanner.stack[last]?).map (·.level) = some place := by
    rw [isStack, List.getElem?_append_left (by simp [isLast]), List.getElem?_map]
    have inside : last < delimiters.length := by omega
    rw [List.getElem?_eq_getElem inside]
    rfl
  have height : min delimiters.length state.scanner.stack.length = last + 1 := by
    rw [isStack, List.length_append, List.length_map]
    omega
  rw [levelOf, inComment, closers, height]
  simp only [Bool.false_eq_true, if_false, found, Option.getD_some]

/-- The closing line of a block. -/
theorem step_closing {state : State} {scanner : Scanner} {delimiters : List Delimiter}
    {openedOn place : Nat} {text : List Char} (number : Nat) (inCode : scanner.InCode)
    (code : .template ∉ delimiters) (nonempty : delimiters ≠ [])
    (isScanner : state.scanner = scanner.opened openedOn place delimiters)
    (isEnd : IsBlockEnd text) :
    step 2 state number ((indentation place).toList ++ (closersOf delimiters ++ text)) =
      .ok
        { scanner
          printed :=
            ((indentation place).toList ++ (closersOf delimiters ++ text)) :: state.printed
          afterArrow := false } := by
  have inside : state.scanner.InCode := isScanner ▸ inCode.opened code
  have closing := isTrimmed_closing code nonempty isEnd
  have found : levelOf state (closersOf delimiters ++ text) = place :=
    levelOf_closersOf code nonempty inside.comment (by rw [isScanner]; rfl) isEnd
  have scanned : state.scanner.scanLine number place (closersOf delimiters ++ text) =
      .ok scanner := by
    rw [isScanner, Scanner.scanLine,
      Scanner.foldlM_append_of_eq_ok (scans_closersOf inCode code openedOn place number place)]
    rcases isEnd with rfl | rfl
    · rfl
    · have semicolon : Piece [';'] [] := Piece.plain rfl
      rw [semicolon.scans inCode]
      rfl
  obtain ⟨closer, rest, shape, closes⟩ := exists_closersOf_append code nonempty text
  have declares : declarationFault? (closersOf delimiters ++ text) = none := by
    rw [shape]
    refine (startsNoWord_cons rest ?_ ?_).declarationFault?_eq_none
    · rcases closes with rfl | rfl | rfl <;> decide
    · rcases closes with rfl | rfl | rfl <;> decide
  have isCode : startsComment (closersOf delimiters ++ text) = false := by
    rw [shape]
    rcases closes with rfl | rfl | rfl <;> rfl
  rw [step_of_not_inTemplate inside.template, trimList_indentation closing,
    if_neg closing.nonempty]
  refine codeLine_eq_ok_iff.mpr ⟨fun _ => declares, scanner, by rw [found, scanned], ?_⟩
  rw [afterCode, found, inside.comment, isCode, padding_code, endsInArrow_closing isEnd]
  rfl

/-- Lines around a stretch of lines one level deeper, of which the first opens what
the last closes. -/
theorem LaidOut.block {head text : List Char} {delimiters : List Delimiter}
    {body : List (List Char)} {place : Nat} (code : CodeText head delimiters)
    (isCode : startsComment head = false) (noArrow : endsInArrow head = false)
    (nonempty : delimiters ≠ []) (isPlace : level + arrow.toNat = place)
    (inside : LaidOut false (place + 1) body) (isEnd : IsBlockEnd text) :
    LaidOut arrow level
      (((indentation place).toList ++ head) ::
        (body ++ [(indentation place).toList ++ (closersOf delimiters ++ text)])) := by
  intro state number expects
  let opened : State :=
    { scanner := state.scanner.opened number place delimiters
      printed := ((indentation place).toList ++ head) :: state.printed
      afterArrow := false }
  have stepped : step 2 state number ((indentation place).toList ++ head) = .ok opened := by
    rw [code.step number expects isPlace, isCode, noArrow]
    rfl
  have expectsBody : opened.Expects false (place + 1) := by
    refine ⟨expects.inCode.opened code.code, ?_, rfl⟩
    obtain ⟨delimiter, rest, rfl⟩ := List.exists_cons_of_ne_nil nonempty
    rfl
  refine run_cons_eq_ok_iff.mpr ⟨opened, stepped, run_append_eq_ok_iff.mpr ⟨_,
    inside opened _ expectsBody, run_cons_eq_ok_iff.mpr ⟨_,
      step_closing _ expects.inCode code.code nonempty rfl isEnd, ?_⟩⟩⟩
  have closing := isTrimmed_closing code.code nonempty isEnd
  rw [run]
  simp [opened, trimEndList_indentation code.trimmed, trimEndList_indentation closing]

/-! ## Comments of several lines -/

/-- A line of a comment that starts with a star below the star of the first line. -/
def starred (level : Nat) (rest : List Char) : List Char :=
  (indentation level).toList ++ ' ' :: '*' :: rest

/-- A starred line stays below the first star, without its trailing white space. -/
theorem step_starred {state : State} {scanner : Scanner} {rest : List Char} (number : Nat)
    (outside : state.scanner.inTemplate = false) (inComment : state.scanner.inComment = true)
    (inner : innerLevel state.scanner.stack = level)
    (scanned : state.scanner.scanLine number level (Text.trimEndList ('*' :: rest)) =
      .ok scanner) :
    step 2 state number (starred level rest) =
      .ok { state with
        scanner
        printed := Text.trimEndList (starred level rest) :: state.printed } := by
  have star : Text.isWhiteSpace '*' = false := by decide
  have split : starred level rest = ((indentation level).toList ++ [' ']) ++ '*' :: rest := by
    simp [starred]
  have blank : ∀ c ∈ (indentation level).toList ++ [' '], Text.isWhiteSpace c = true := by
    intro c member
    rcases List.mem_append.mp member with inIndentation | isBlank
    · exact isWhiteSpace_of_mem_indentation inIndentation
    · rw [List.mem_singleton.mp isBlank]
      decide
  have trimmed : Text.trimList (starred level rest) = Text.trimEndList ('*' :: rest) := by
    rw [split, Text.trimList_padded blank star]
  have nonempty : Text.trimEndList ('*' :: rest) ≠ [] := by
    rw [Text.trimEndList_cons star]
    exact List.cons_ne_nil _ _
  have found : levelOf state (Text.trimEndList ('*' :: rest)) = level := by
    rw [levelOf, inComment, if_pos rfl, inner]
  have padded : padding 2 level true (Text.trimEndList ('*' :: rest)) =
      (indentation level).toList ++ [' '] := by
    rw [padding, Text.trimEndList_cons star, toList_indentation, Nat.mul_comm]
    rfl
  rw [step_of_not_inTemplate outside, trimmed, if_neg nonempty]
  refine codeLine_eq_ok_iff.mpr ⟨fun isCode => absurd (inComment.symm.trans isCode) (by decide),
    scanner, by rw [found, scanned], ?_⟩
  rw [afterCode, found, inComment, padded, split, Text.trimEndList_append_cons star]
  rfl

/-- A line of a comment without the comment's end sign stays inside the comment. -/
theorem CommentBody.scanLine {text : List Char} (body : CommentBody text) {scanner : Scanner}
    (number level : Nat) (inComment : scanner.inComment = true) :
    scanner.scanLine number level text = .ok scanner := by
  obtain ⟨mode, waits, scanned⟩ := body.scans number level inComment
  rw [Scanner.scanLine, scanned]
  rcases waits with rfl | rfl <;> rfl

theorem CommentBody.trimEndList {text : List Char} (body : CommentBody text) :
    CommentBody (Text.trimEndList text) :=
  ⟨fun member => body.noFeed (Text.mem_of_mem_trimEndList member),
    fun inside => body.noEnd (inside.trans (List.rdropWhile_prefix _ text).isInfix)⟩

/-- The starred lines of a comment, of which none ends it. -/
theorem run_starred {state : State} {lines : List (List Char)} (number : Nat)
    (outside : state.scanner.inTemplate = false) (inComment : state.scanner.inComment = true)
    (inner : innerLevel state.scanner.stack = level)
    (each : ∀ rest ∈ lines, CommentBody ('*' :: rest)) :
    run 2 number state (lines.map (starred level)) =
      .ok { state with
        printed := ((lines.map (starred level)).map Text.trimEndList).reverse ++
          state.printed } := by
  induction lines generalizing number state with
  | nil => rfl
  | cons rest lines ih =>
      have body := each rest List.mem_cons_self
      have stepped := step_starred number outside inComment inner
        (body.trimEndList.scanLine number level inComment)
      rw [List.map_cons]
      refine run_cons_eq_ok_iff.mpr ⟨_, stepped, ?_⟩
      rw [ih]
      · simp
      · exact outside
      · exact inComment
      · exact inner
      · exact fun other member => each other (List.mem_cons_of_mem rest member)

/-- The lines of a comment. -/
def commentLines (level : Nat) (lines : List (List Char)) : List (List Char) :=
  ((indentation level).toList ++ ['/', '*', '*']) ::
    (lines.map (starred level) ++ [starred level ['/']])

theorem isTrimmed_commentOpening : Text.IsTrimmed ['/', '*', '*'] :=
  ⟨List.cons_ne_nil _ _, by rintro c ⟨⟩; decide, by rintro c ⟨⟩; decide⟩

/-- A comment of several lines is kept. -/
theorem LaidOut.comment {lines : List (List Char)}
    (each : ∀ rest ∈ lines, CommentBody ('*' :: rest)) :
    LaidOut false level (commentLines level lines) := by
  intro state number expects
  let inside : State :=
    { scanner := { state.scanner with inComment := true }
      printed := ((indentation level).toList ++ ['/', '*', '*']) :: state.printed
      afterArrow := false }
  have opened : step 2 state number ((indentation level).toList ++ ['/', '*', '*']) =
      .ok inside := by
    have found : levelOf state ['/', '*', '*'] = level :=
      expects.levelOf (by rintro c ⟨⟩; decide)
    have scanned : state.scanner.scanLine number level ['/', '*', '*'] = .ok inside.scanner := by
      rw [Scanner.scanLine, Scanner.foldlM_cons_of_eq_ok (expects.inCode.feed '/')]
      rfl
    rw [step_of_not_inTemplate expects.inCode.template,
      trimList_indentation isTrimmed_commentOpening, if_neg (List.cons_ne_nil _ _)]
    refine codeLine_eq_ok_iff.mpr ⟨fun _ => rfl, _, by rw [found, scanned], ?_⟩
    rw [afterCode, found, expects.inCode.comment, expects.afterArrow, padding_code]
    rfl
  have closed : ∀ number, inside.scanner.scanLine number level (Text.trimEndList ['*', '/']) =
      .ok state.scanner := by
    intro number
    have unchanged : { state.scanner with inComment := false } = state.scanner := by
      rw [← expects.inCode.comment]
    exact congrArg Except.ok unchanged
  refine run_cons_eq_ok_iff.mpr ⟨inside, opened, run_append_eq_ok_iff.mpr ⟨_,
    run_starred _ expects.inCode.template rfl expects.inner each, run_cons_eq_ok_iff.mpr ⟨_,
      step_starred _ expects.inCode.template rfl expects.inner (closed _), ?_⟩⟩⟩
  have first : Text.trimEndList ((indentation level).toList ++ ['/', '*', '*']) =
      (indentation level).toList ++ ['/', '*', '*'] :=
    trimEndList_indentation isTrimmed_commentOpening level
  rw [run]
  simp [inside, commentLines, first]

end TypedClient.Layout
