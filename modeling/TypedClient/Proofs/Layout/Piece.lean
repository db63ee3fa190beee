/-
# Pieces of a line

A piece of code is scanned the same wherever it stands: it may leave delimiters
open, but no string and no comment. Pieces compose, so the text of an expression is
a piece if its parts are. A string literal is a piece because its inside never ends
the string, a comment because its inside never ends the comment.
-/

import TypedClient.Layout.Format
import TypedClient.Naming.Quoting

namespace TypedClient.Layout

/-! ## Scanning code -/

/-- Scanning stands in code, outside comments and the text of template literals. -/
structure Scanner.InCode (scanner : Scanner) : Prop where
  comment : scanner.inComment = false
  template : scanner.inTemplate = false

/-- A scanner with some delimiters opened on one line, innermost first. -/
def Scanner.opened (scanner : Scanner) (line level : Nat) (delimiters : List Delimiter) :
    Scanner :=
  { scanner with stack := delimiters.map (⟨·, line, level⟩) ++ scanner.stack }

/-- A text within a line that scanning goes through and that leaves some delimiters
open, innermost first. -/
structure Piece (text : List Char) (delimiters : List Delimiter) : Prop where
  noFeed : '\n' ∉ text
  code : .template ∉ delimiters
  scans : ∀ {scanner : Scanner} {line level : Nat}, scanner.InCode →
    text.foldlM (Scanner.feed line level) (scanner, .plain) =
      .ok (scanner.opened line level delimiters, .plain)

theorem Delimiter.eq_of_closer? {delimiter : Delimiter} {c : Char}
    (closes : delimiter.closer? = some c) : c = ')' ∨ c = ']' ∨ c = '}' := by
  cases delimiter <;> cases closes <;> decide

namespace Scanner

variable {scanner : Scanner} {line level : Nat}

/-- Scanning goes on where it stands after the first characters. -/
theorem foldlM_append_of_eq_ok {first rest : List Char} {start after : Scanner × Mode}
    (scanned : first.foldlM (feed line level) start = .ok after) :
    (first ++ rest).foldlM (feed line level) start = rest.foldlM (feed line level) after := by
  rw [List.foldlM_append, scanned]
  rfl

theorem foldlM_cons_of_eq_ok {c : Char} {rest : List Char} {start after : Scanner × Mode}
    (fed : feed line level start c = .ok after) :
    (c :: rest).foldlM (feed line level) start = rest.foldlM (feed line level) after := by
  rw [List.foldlM_cons, fed]
  rfl

theorem opened_nil : scanner.opened line level [] = scanner := rfl

theorem opened_opened (first second : List Delimiter) :
    (scanner.opened line level first).opened line level second =
      scanner.opened line level (second ++ first) := by
  simp [opened]

theorem InCode.opened (inCode : scanner.InCode) {delimiters : List Delimiter}
    (code : .template ∉ delimiters) : (scanner.opened line level delimiters).InCode := by
  refine ⟨inCode.comment, ?_⟩
  cases delimiters with
  | nil => exact inCode.template
  | cons delimiter rest =>
      have differs : delimiter ≠ .template := fun same => code (same ▸ List.mem_cons_self)
      exact beq_eq_false_iff_ne.mpr differs

/-- A character of code is fed to code. -/
theorem InCode.feed (inCode : scanner.InCode) (c : Char) :
    feed line level (scanner, .plain) c = scanner.feedCode line level c := by
  simp [Scanner.feed, inCode.comment, inCode.template]

/-- The bracket that closes what is innermost closes it. -/
theorem InCode.feed_closer (inCode : scanner.InCode) {frame : Frame} {rest : List Frame}
    (top : scanner.stack = frame :: rest) {closer : Char}
    (closes : frame.delimiter.closer? = some closer) :
    Scanner.feed line level (scanner, .plain) closer =
      .ok ({ scanner with stack := rest }, .plain) := by
  have closed : scanner.close closer = .ok { scanner with stack := rest } := by
    rw [close, top]
    exact if_pos closes
  have fed : scanner.feedCode line level closer = (scanner.close closer).map (·, .plain) := by
    rcases Delimiter.eq_of_closer? closes with rfl | rfl | rfl <;> rfl
  rw [inCode.feed, fed, closed]
  rfl

end Scanner

/-! ## Composition -/

namespace Piece

variable {text rest : List Char} {delimiters others : List Delimiter}

theorem nil : Piece [] [] :=
  ⟨List.not_mem_nil, List.not_mem_nil, fun _ => rfl⟩

/-- One piece after another; the delimiters of the second are inside those of the
first. -/
theorem append (first : Piece text delimiters) (second : Piece rest others) :
    Piece (text ++ rest) (others ++ delimiters) := by
  refine ⟨?_, ?_, fun {scanner line level} inCode => ?_⟩
  · exact fun member => (List.mem_append.mp member).elim first.noFeed second.noFeed
  · exact fun member => (List.mem_append.mp member).elim second.code first.code
  · rw [Scanner.foldlM_append_of_eq_ok (first.scans inCode),
      second.scans (inCode.opened first.code), Scanner.opened_opened]

theorem append_closed (first : Piece text []) (second : Piece rest []) :
    Piece (text ++ rest) [] :=
  first.append second

theorem flatMap {α : Type} {items : List α} {text : α → List Char}
    (each : ∀ item ∈ items, Piece (text item) []) : Piece (items.flatMap text) [] := by
  induction items with
  | nil => exact nil
  | cons item items ih =>
      rw [List.flatMap_cons]
      exact (each item List.mem_cons_self).append_closed
        (ih fun other member => each other (List.mem_cons_of_mem item member))

/-- Pieces with a piece between them. -/
theorem intercalate {separator : List Char} {items : List (List Char)}
    (between : Piece separator []) (each : ∀ item ∈ items, Piece item []) :
    Piece (separator.intercalate items) [] := by
  induction items with
  | nil => exact nil
  | cons first items ih =>
      have head := each first List.mem_cons_self
      have tail := ih fun other member => each other (List.mem_cons_of_mem first member)
      cases items with
      | nil => simpa using head
      | cons second items =>
          rw [List.intercalate_cons_cons]
          exact (head.append_closed between).append_closed tail

/-- Characters that mean nothing to scanning. -/
def isPlainChar (c : Char) : Bool :=
  !(['\n', '/', '"', '\'', '\x60', '(', '[', '{', ')', ']', '}'].contains c)

theorem feedCode_of_isPlainChar {scanner : Scanner} {line level : Nat} {c : Char}
    (plain : isPlainChar c = true) : scanner.feedCode line level c = .ok (scanner, .plain) := by
  simp only [isPlainChar, List.contains_cons, List.contains_nil, Bool.or_false,
    Bool.not_eq_true', Bool.or_eq_false_iff, beq_eq_false_iff_ne, ne_eq] at plain
  obtain ⟨-, slash, double, single, backquote, paren, bracket, brace, closers⟩ := plain
  unfold Scanner.feedCode
  split
  · exact absurd rfl slash
  · exact absurd rfl double
  · exact absurd rfl single
  · exact absurd rfl backquote
  · have opens : Delimiter.opened? c = none := by
      unfold Delimiter.opened?
      split
      · exact absurd rfl paren
      · exact absurd rfl bracket
      · exact absurd rfl brace
      · rfl
    rw [opens]
    simp [isCloser, closers]

theorem ofPlainChar {c : Char} (plain : isPlainChar c = true) : Piece [c] [] := by
  refine ⟨?_, List.not_mem_nil, fun inCode => ?_⟩
  · intro member
    rw [← List.mem_singleton.mp member] at plain
    exact absurd plain (by decide)
  · rw [Scanner.foldlM_cons_of_eq_ok ((inCode.feed c).trans (feedCode_of_isPlainChar plain))]
    rfl

/-- A text of plain characters. -/
theorem plain {text : List Char} (plain : text.all isPlainChar = true) : Piece text [] := by
  have each : Piece (text.flatMap fun c => [c]) [] :=
    flatMap fun c member => ofPlainChar (List.all_eq_true.mp plain c member)
  simpa using each

/-- An opening bracket. -/
theorem opening {c : Char} {delimiter : Delimiter} (opens : Delimiter.opened? c = some delimiter) :
    Piece [c] [delimiter] := by
  unfold Delimiter.opened? at opens
  split at opens <;> cases opens <;>
    exact ⟨by decide, by decide, fun inCode => by rw [List.foldlM_cons, inCode.feed]; rfl⟩

/-- A piece between brackets that fit. -/
theorem enclosed (closed : Piece text []) {c closer : Char} {delimiter : Delimiter}
    (opens : Delimiter.opened? c = some delimiter) (closes : delimiter.closer? = some closer) :
    Piece (c :: (text ++ [closer])) [] := by
  have front := (opening opens).append closed
  rw [List.nil_append] at front
  refine ⟨?_, List.not_mem_nil, fun {scanner line level} inCode => ?_⟩
  · intro member
    rcases List.mem_append.mp (List.cons_append ▸ member) with inFront | isCloser
    · exact front.noFeed inFront
    · rw [← List.mem_singleton.mp isCloser] at closes
      exact absurd (Delimiter.eq_of_closer? closes) (by decide)
  · have closing : Scanner.feed line level (scanner.opened line level [delimiter], .plain) closer =
        .ok (scanner, .plain) := (inCode.opened front.code).feed_closer rfl closes
    rw [← List.cons_append, ← List.singleton_append,
      Scanner.foldlM_append_of_eq_ok (front.scans inCode), Scanner.foldlM_cons_of_eq_ok closing]
    rfl

/-- A piece between braces with blanks inside them. -/
theorem braced (closed : Piece text []) : Piece ("\x7b ".toList ++ text ++ " \x7d".toList) [] := by
  have blank : Piece [' '] [] := Piece.plain rfl
  have spaced := (blank.append_closed closed).append_closed blank
  simpa using spaced.enclosed (c := '{') rfl rfl

end Piece

/-! ## String literals -/

/-- The inside of a double-quoted string: it does not end the string. -/
structure StringBody (text : List Char) : Prop where
  noFeed : '\n' ∉ text
  scans : ∀ {scanner : Scanner} {line level : Nat},
    text.foldlM (Scanner.feed line level) (scanner, .string '"') = .ok (scanner, .string '"')

namespace StringBody

theorem nil : StringBody [] :=
  ⟨List.not_mem_nil, rfl⟩

theorem append {first second : List Char} (head : StringBody first) (tail : StringBody second) :
    StringBody (first ++ second) := by
  refine ⟨?_, fun {scanner line level} => ?_⟩
  · exact fun member => (List.mem_append.mp member).elim head.noFeed tail.noFeed
  · rw [Scanner.foldlM_append_of_eq_ok head.scans, tail.scans]

theorem flatMap {items : List Char} {text : Char → List Char}
    (each : ∀ item ∈ items, StringBody (text item)) : StringBody (items.flatMap text) := by
  induction items with
  | nil => exact nil
  | cons item items ih =>
      rw [List.flatMap_cons]
      exact (each item List.mem_cons_self).append
        (ih fun other member => each other (List.mem_cons_of_mem item member))

/-- Any other character stands for itself. -/
theorem ofChar {c : Char} (notQuote : c ≠ '"') (notBackslash : c ≠ '\\') (notFeed : c ≠ '\n') :
    StringBody [c] := by
  refine ⟨fun member => notFeed (List.mem_singleton.mp member).symm, fun {scanner line level} => ?_⟩
  have fed : Scanner.feed line level (scanner, .string '"') c = .ok (scanner, .string '"') := by
    simp [Scanner.feed, notQuote, notBackslash]
  rw [Scanner.foldlM_cons_of_eq_ok fed]
  rfl

/-- A character after a backslash. -/
theorem escape {c : Char} (notFeed : c ≠ '\n') : StringBody ['\\', c] := by
  refine ⟨fun member => ?_, rfl⟩
  rcases List.mem_cons.mp member with isBackslash | isChar
  · exact absurd isBackslash (by decide)
  · exact notFeed (List.mem_singleton.mp isChar).symm

/-- Hexadecimal digits stand for themselves. -/
theorem hexDigits (width value : Nat) : StringBody (Text.hexDigits width value) := by
  induction width generalizing value with
  | zero => exact nil
  | succ width ih =>
      have digits : ∀ digit < 16,
          Nat.digitChar digit ≠ '"' ∧ Nat.digitChar digit ≠ '\\' ∧
            Nat.digitChar digit ≠ '\n' := by decide
      have last := digits (value % 16) (Nat.mod_lt _ (by decide))
      exact (ih (value / 16)).append (ofChar last.1 last.2.1 last.2.2)

/-- A body between quotes is a piece. -/
theorem quoted {text : List Char} (body : StringBody text) : Piece ('"' :: (text ++ ['"'])) [] := by
  refine ⟨fun member => ?_, List.not_mem_nil, fun {scanner line level} inCode => ?_⟩
  · simp only [List.mem_cons, List.mem_append, List.not_mem_nil, or_false] at member
    rcases member with isQuote | inText | isQuote
    · exact absurd isQuote (by decide)
    · exact body.noFeed inText
    · exact absurd isQuote (by decide)
  · rw [Scanner.foldlM_cons_of_eq_ok (inCode.feed '"'), Scanner.foldlM_append_of_eq_ok body.scans]
    rfl

end StringBody

theorem stringBody_escapeChar (c : Char) : StringBody (Naming.escapeChar c) := by
  unfold Naming.escapeChar
  split
  · exact .escape (by decide)
  · exact .escape (by decide)
  · exact .escape (by decide)
  · exact .escape (by decide)
  · exact .escape (by decide)
  · rename_i notBackslash notQuote notFeed notReturn notTab
    split
    · exact (StringBody.escape (c := 'u') (by decide)).append (.hexDigits 4 c.toNat)
    · exact .ofChar notQuote notBackslash notFeed

/-- A written literal is a piece, whatever its text is. -/
theorem piece_quoteLiteral (s : String) : Piece (Naming.quoteLiteral s).toList [] := by
  have body : StringBody (s.toList.flatMap Naming.escapeChar) :=
    .flatMap fun c _ => stringBody_escapeChar c
  simpa [Naming.quoteLiteral, Naming.escapeLiteral] using body.quoted

/-! ## Comments on one line -/

/-- A text that does not end the comment it stands in. -/
structure CommentBody (text : List Char) : Prop where
  noFeed : '\n' ∉ text
  noEnd : ¬ ['*', '/'] <:+: text

/-- Inside a comment, scanning stands in front of a star's end sign or nowhere. -/
theorem CommentBody.scans {text : List Char} (body : CommentBody text) {scanner : Scanner}
    (line level : Nat) (inComment : scanner.inComment = true) :
    ∃ mode, (mode = .plain ∨ mode = .afterStar) ∧
      text.foldlM (Scanner.feed line level) (scanner, .plain) = .ok (scanner, mode) := by
  have goesOn : ∀ (text : List Char) (mode : Mode), ¬ ['*', '/'] <:+: text →
      (mode = .plain ∨ mode = .afterStar ∧ text.head? ≠ some '/') →
      ∃ after, (after = .plain ∨ after = .afterStar) ∧
        text.foldlM (Scanner.feed line level) (scanner, mode) = .ok (scanner, after) := by
    intro text
    induction text with
    | nil =>
        rintro mode - (rfl | ⟨rfl, -⟩)
        · exact ⟨.plain, Or.inl rfl, rfl⟩
        · exact ⟨.afterStar, Or.inr rfl, rfl⟩
    | cons c rest ih =>
        intro mode noEnd waits
        have fed : Scanner.feed line level (scanner, mode) c = .ok (scanner.feedComment c) := by
          rcases waits with rfl | ⟨rfl, notSlash⟩
          · simp [Scanner.feed, inComment]
          · have differs : c ≠ '/' := fun same => notSlash (by rw [same]; rfl)
            simp [Scanner.feed, differs]
        rw [Scanner.foldlM_cons_of_eq_ok fed, Scanner.feedComment]
        refine ih _ (fun inRest => noEnd (inRest.trans (List.suffix_cons c rest).isInfix)) ?_
        by_cases star : c = '*'
        · refine Or.inr ⟨by simp [star], fun slash => noEnd ?_⟩
          obtain ⟨tail, rfl⟩ := List.head?_eq_some_iff.mp slash
          rw [star]
          exact ⟨[], tail, rfl⟩
        · exact Or.inl (by simp [star])
  exact goesOn text .plain body.noEnd (Or.inl rfl)

/-- A comment that ends on its line is a piece. -/
theorem CommentBody.piece {text : List Char} (body : CommentBody text) :
    Piece ('/' :: '*' :: (text ++ [' ', '*', '/'])) [] := by
  refine ⟨fun member => ?_, List.not_mem_nil, fun {scanner line level} inCode => ?_⟩
  · simp only [List.mem_cons, List.mem_append, List.not_mem_nil, or_false] at member
    rcases member with isSlash | isStar | inText | isBlank | isStar | isSlash
    · exact absurd isSlash (by decide)
    · exact absurd isStar (by decide)
    · exact body.noFeed inText
    · exact absurd isBlank (by decide)
    · exact absurd isStar (by decide)
    · exact absurd isSlash (by decide)
  · let inside : Scanner := { scanner with inComment := true }
    have opened : Scanner.feed line level (scanner, .afterSlash) '*' = .ok (inside, .plain) := rfl
    have comment : inside.inComment = true := rfl
    obtain ⟨mode, waits, scanned⟩ := body.scans line level comment
    have blank : Scanner.feed line level (inside, mode) ' ' = .ok (inside, .plain) := by
      rcases waits with rfl | rfl <;> rfl
    rw [Scanner.foldlM_cons_of_eq_ok (inCode.feed '/'), Scanner.foldlM_cons_of_eq_ok opened,
      Scanner.foldlM_append_of_eq_ok scanned, Scanner.foldlM_cons_of_eq_ok blank]
    have unchanged : { scanner with inComment := false } = scanner := by
      rw [← inCode.comment]
    exact congrArg (fun after => Except.ok (after, Mode.plain)) unchanged

end TypedClient.Layout
