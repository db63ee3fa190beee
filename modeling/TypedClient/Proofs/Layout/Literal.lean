/-
# String literals under layout

Two readers meet the literals of a module. A script takes escapes apart to find the
value; the scanner of layout only looks for the closing quote and passes over one
character after a backslash. An escape can be longer than that, but all that it adds
are digits and braces, which mean nothing to the scanner. So the two agree on every
literal: where a script stops reading, the scanner is back in code with the same
delimiters open.

Main statement: a written literal is one token that stands for the text it was
written for, and the scanner leaves it as it entered it.
-/

import TypedClient.Proofs.Layout.Piece
import TypedClient.Proofs.Script.TypeLexing

namespace TypedClient.Layout

open Script (escape? readString readStringFrom isLineTerminator)

/-! ## Escapes -/

/-- Characters that neither end a string nor start an escape. -/
def isStringChar (c : Char) : Bool :=
  c != '"' && c != '\\'

theorem isStringChar_of_hexValue? {c : Char} {value : Nat}
    (digit : Text.hexValue? c = some value) : isStringChar c = true := by
  rw [isStringChar, Bool.and_eq_true, bne_iff_ne, bne_iff_ne]
  have quote : Text.hexValue? '"' = none := by decide
  have backslash : Text.hexValue? '\\' = none := by decide
  constructor
  · rintro rfl
    rw [quote] at digit
    cases digit
  · rintro rfl
    rw [backslash] at digit
    cases digit

/-- The digits of a number mean nothing to the scanner. -/
theorem all_isStringChar_of_hexEscape? {digits value : List Char}
    (named : Script.hexEscape? digits = some value) : digits.all isStringChar = true := by
  have each : ∀ (digits : List Char) (start : Nat) {number : Nat},
      digits.foldlM (fun value digit => (Text.hexValue? digit).map (value * 16 + ·)) start =
        some number → digits.all isStringChar = true := by
    intro digits
    induction digits with
    | nil => exact fun _ _ _ => rfl
    | cons digit digits ih =>
        intro start number found
        rw [List.foldlM_cons] at found
        obtain ⟨next, isDigit, found⟩ := Option.bind_eq_some_iff.mp found
        obtain ⟨_, isDigit, -⟩ := Option.map_eq_some_iff.mp isDigit
        rw [List.all_cons, isStringChar_of_hexValue? isDigit, ih next found, Bool.and_self]
  obtain ⟨_, isChar, -⟩ := Option.map_eq_some_iff.mp named
  obtain ⟨_, isNumber, -⟩ := Option.bind_eq_some_iff.mp isChar
  exact each digits 0 isNumber

/-- Digits that do not go on to the end of the text have their brace behind them. -/
theorem exists_brace {text : List Char}
    (ends : (text.takeWhile (· != '}')).length ≠ text.length) :
    ∃ after, text = text.takeWhile (· != '}') ++ '}' :: after := by
  have whole := text.takeWhile_append_dropWhile (p := (· != '}'))
  have isBrace := List.head?_dropWhile_not (· != '}') text
  cases shape : text.dropWhile (· != '}') with
  | nil =>
      rw [shape, List.append_nil] at whole
      exact absurd (congrArg List.length whole) ends
  | cons c after =>
      simp only [shape, List.head?_cons, bne_eq_false_iff_eq] at isBrace
      subst isBrace
      exact ⟨after, by rw [← shape, whole]⟩

/-- The characters of an escape after its first mean nothing to the scanner. -/
theorem exists_take_of_escape? {text value : List Char} {length : Nat}
    (escape : escape? text = some (value, length)) :
    ∃ c left, text.take length = c :: left ∧ left.all isStringChar = true := by
  unfold escape? at escape
  split at escape
  case h_7 =>
    split at escape <;> cases escape
    exact ⟨'0', [], rfl, rfl⟩
  case h_8 a b rest =>
    obtain ⟨_, named, same⟩ := Option.map_eq_some_iff.mp escape
    cases same
    exact ⟨'x', [a, b], rfl, all_isStringChar_of_hexEscape? named⟩
  case h_9 rest =>
    simp only at escape
    split at escape
    · cases escape
    · rename_i closed
      obtain ⟨_, named, same⟩ := Option.map_eq_some_iff.mp escape
      cases same
      simp only [Bool.or_eq_true, beq_iff_eq, not_or] at closed
      obtain ⟨after, shape⟩ := exists_brace closed.2
      refine ⟨'u', '{' :: (rest.takeWhile (· != '}') ++ ['}']), ?_, ?_⟩
      · generalize rest.takeWhile (· != '}') = digits at shape
        rw [shape, List.take_succ_cons, List.take_succ_cons, List.take_length_add_append]
        rfl
      · simp [all_isStringChar_of_hexEscape? named, isStringChar]
  case h_10 a b c d rest _ =>
    obtain ⟨_, named, same⟩ := Option.map_eq_some_iff.mp escape
    cases same
    exact ⟨'u', [a, b, c, d], rfl, all_isStringChar_of_hexEscape? named⟩
  case h_11 =>
    cases escape
    exact ⟨'\r', ['\n'], rfl, by decide⟩
  case h_12 c rest _ _ _ _ _ _ _ _ _ _ _ =>
    have single : length = 1 := by
      split at escape
      · cases escape
        rfl
      · split at escape <;> cases escape
        rfl
    exact ⟨c, [], by rw [single]; rfl, rfl⟩
  case h_13 => cases escape
  -- The escapes of one letter.
  all_goals
    cases escape
    exact ⟨_, [], rfl, rfl⟩

/-! ## Reading and scanning -/

/-- The scanner stands in a string, and so many characters of an escape are left. After
a backslash the first of them may be any. -/
inductive InString : Mode → List Char → Prop where
  | inside {left : List Char} (plain : left.all isStringChar = true) : InString (.string '"') left
  | escaped (c : Char) {left : List Char} (plain : left.all isStringChar = true) :
      InString (.stringEscape '"') (c :: left)

/-- What is left of an escape does not end the string. -/
theorem InString.feed {mode : Mode} {c : Char} {left : List Char}
    (inString : InString mode (c :: left)) :
    InString (.string '"') left ∧ ∀ (scanner : Scanner) (line level : Nat),
      Scanner.feed line level (scanner, mode) c = .ok (scanner, .string '"') := by
  cases inString with
  | inside plain =>
      rw [List.all_cons, Bool.and_eq_true] at plain
      obtain ⟨isChar, plain⟩ := plain
      simp only [isStringChar, Bool.and_eq_true, bne_iff_ne] at isChar
      exact ⟨.inside plain, fun _ _ _ => by simp [Scanner.feed, isChar.1, isChar.2]⟩
  | escaped _ plain => exact ⟨.inside plain, fun _ _ _ => rfl⟩

/-- Scanning goes from inside a string to behind it, and leaves what is open as it is. -/
def LeavesString (mode : Mode) (text : List Char) : Prop :=
  ∀ (scanner : Scanner) (line level : Nat),
    text.foldlM (Scanner.feed line level) (scanner, mode) = .ok (scanner, .plain)

theorem LeavesString.cons {mode next : Mode} {c : Char} {text : List Char}
    (fed : ∀ (scanner : Scanner) (line level : Nat),
      Scanner.feed line level (scanner, mode) c = .ok (scanner, next))
    (leaves : LeavesString next text) : LeavesString mode (c :: text) := by
  intro scanner line level
  rw [Scanner.foldlM_cons_of_eq_ok (fed scanner line level)]
  exact leaves scanner line level

/-- Where a script stops reading, the scanner has left the string. The induction is the
reader's, with what the reader skips as what is left of an escape. -/
theorem leavesString_of_readStringFrom {skip : Nat} {text value rest : List Char} {mode : Mode}
    (inString : InString mode (text.take skip))
    (read : readStringFrom skip text = some (value, rest)) :
    ∃ taken, text = taken ++ rest ∧ LeavesString mode taken := by
  fun_induction readStringFrom skip text generalizing mode value with
  | case1 => cases read
  | case2 skip c text ih =>
      obtain ⟨inRest, fed⟩ := inString.feed
      obtain ⟨taken, rfl, leaves⟩ := ih inRest read
      exact ⟨c :: taken, rfl, leaves.cons fed⟩
  | case3 text =>
      cases read
      cases inString
      exact ⟨['"'], rfl, fun _ _ _ => rfl⟩
  | case4 text escaped length escape ih =>
      obtain ⟨_, readRest, same⟩ := Option.map_eq_some_iff.mp read
      cases same
      obtain ⟨c, left, escapeText, plain⟩ := exists_take_of_escape? escape
      have next : InString (.stringEscape '"') (text.take length) := by
        rw [escapeText]
        exact .escaped c plain
      cases inString
      obtain ⟨taken, rfl, leaves⟩ := ih next readRest
      exact ⟨'\\' :: taken, rfl, leaves.cons fun _ _ _ => rfl⟩
  | case5 => cases read
  | case6 => cases read
  | case7 c text notQuote notBackslash inLine ih =>
      obtain ⟨_, readRest, same⟩ := Option.map_eq_some_iff.mp read
      cases same
      cases inString
      obtain ⟨taken, rfl, leaves⟩ := ih (.inside rfl) readRest
      refine ⟨c :: taken, rfl, leaves.cons fun _ _ _ => ?_⟩
      rw [Scanner.feed, if_neg (by simpa using notBackslash), if_neg (by simpa using notQuote)]

/-- A quote in code starts a string, also behind a slash. -/
theorem Scanner.InCode.feed_quote {scanner : Scanner} {line level : Nat} {mode : Mode}
    (inCode : scanner.InCode) (between : mode = .plain ∨ mode = .afterSlash) :
    Scanner.feed line level (scanner, mode) '"' = .ok (scanner, .string '"') := by
  rcases between with rfl | rfl
  · exact inCode.feed '"'
  · rfl

/-- The scanner passes over whatever a script reads as a literal, and goes on with the
same text. -/
theorem Scanner.InCode.scan_literal {scanner : Scanner} {mode : Mode} {text value rest : List Char}
    (inCode : scanner.InCode) (between : mode = .plain ∨ mode = .afterSlash)
    (read : readString text = some (value, rest)) (line level : Nat) :
    text.foldlM (Scanner.feed line level) (scanner, mode) =
      rest.foldlM (Scanner.feed line level) (scanner, .plain) := by
  unfold readString at read
  split at read
  · rename_i text
    obtain ⟨taken, rfl, leaves⟩ := leavesString_of_readStringFrom (.inside rfl) read
    rw [Scanner.foldlM_cons_of_eq_ok (inCode.feed_quote between),
      Scanner.foldlM_append_of_eq_ok (leaves scanner line level)]
  · cases read

/-! ## Written literals -/

theorem isLineTerminator_of_mem_hexDigits {width value : Nat} {c : Char}
    (member : c ∈ Text.hexDigits width value) : isLineTerminator c = false := by
  have digits : ∀ digit < 16, isLineTerminator (Nat.digitChar digit) = false := by decide
  induction width generalizing value with
  | zero => cases member
  | succ width ih =>
      rcases List.mem_append.mp member with inFront | isLast
      · exact ih inFront
      · rw [List.mem_singleton.mp isLast]
        exact digits _ (Nat.mod_lt _ (by decide))

/-- What one test of a whole text says of each of its characters. -/
theorem inLine_of_any {text : List Char} (inLine : text.any isLineTerminator = false) {c : Char}
    (member : c ∈ text) : isLineTerminator c = false :=
  eq_false_of_ne_true (List.any_eq_false.mp inLine c member)

/-- A written character does not end a line. -/
theorem isLineTerminator_of_mem_escapeChar {c d : Char} (member : d ∈ Naming.escapeChar c) :
    isLineTerminator d = false := by
  unfold Naming.escapeChar at member
  split at member
  case h_6 notBackslash notQuote notFeed notReturn notTab =>
    split at member
    · rcases List.mem_cons.mp member with rfl | member
      · rfl
      rcases List.mem_cons.mp member with rfl | member
      · rfl
      · exact isLineTerminator_of_mem_hexDigits member
    · rename_i plain
      rw [List.mem_singleton.mp member]
      simp only [Bool.or_eq_true, beq_iff_eq, not_or] at plain
      simp only [isLineTerminator, Bool.or_eq_false_iff, beq_eq_false_iff_ne]
      exact ⟨⟨⟨notFeed, notReturn⟩, plain.1.2⟩, plain.2⟩
  -- The characters that have a short escape.
  all_goals exact inLine_of_any (by decide) member

/-- A written literal stays on one line of a script. -/
theorem isLineTerminator_of_mem_quoteLiteral {s : String} {c : Char}
    (member : c ∈ (Naming.quoteLiteral s).toList) : isLineTerminator c = false := by
  simp only [Naming.quoteLiteral, Naming.escapeLiteral, String.toList_append, String.toList_ofList,
    List.mem_append, List.mem_flatMap] at member
  rcases member with (isQuote | ⟨d, -, written⟩) | isQuote
  · exact inLine_of_any (by decide) isQuote
  · exact isLineTerminator_of_mem_escapeChar written
  · exact inLine_of_any (by decide) isQuote

/-- A written literal is one token on one line that stands for the text it was written
for, whatever comes after it. Layout scans it from code to code, with nothing opened and
nothing closed, whether a line goes on behind it or not. -/
theorem quoteLiteral_oneToken (s : String) :
    (∀ rest, readString ((Naming.quoteLiteral s).toList ++ rest) = some (s.toList, rest)) ∧
      Script.tokensFrom 0 (Naming.quoteLiteral s).toList = some [.literal s] ∧
      (∀ c ∈ (Naming.quoteLiteral s).toList, isLineTerminator c = false) ∧
      ∀ (scanner : Scanner) (line level : Nat), scanner.InCode →
        (∀ mode, mode = .plain ∨ mode = .afterSlash → ∀ after,
          ((Naming.quoteLiteral s).toList ++ after).foldlM (Scanner.feed line level)
              (scanner, mode) =
            after.foldlM (Scanner.feed line level) (scanner, .plain)) ∧
          scanner.scanLine line level (Naming.quoteLiteral s).toList = .ok scanner := by
  have read := Script.readString_quoteLiteral s
  refine ⟨read, ?_, fun c => isLineTerminator_of_mem_quoteLiteral, ?_⟩
  · have alone : Script.Apart [] := fun c starts => nomatch starts
    simpa [Script.tokensFrom] using Script.Lexes.literal s [] alone
  · intro scanner line level inCode
    have passed : ∀ mode, mode = .plain ∨ mode = .afterSlash → ∀ after,
        ((Naming.quoteLiteral s).toList ++ after).foldlM (Scanner.feed line level)
            (scanner, mode) =
          after.foldlM (Scanner.feed line level) (scanner, .plain) :=
      fun mode between after => inCode.scan_literal between (read after) line level
    refine ⟨passed, ?_⟩
    have alone := passed .plain (Or.inl rfl) []
    rw [List.append_nil] at alone
    rw [Scanner.scanLine, alone]
    rfl

/-- A backslash in front of a quote, control characters of both ranges and a line
separator, inside a brace and behind a slash. -/
theorem quoteLiteral_oneToken_controls :
    let s := "\\\"\x00\u0085\u2028"
    let scanner : Scanner := { stack := [⟨.brace, 1, 0⟩] }
    Naming.quoteLiteral s = "\"\\\\\\\"\\u0000\\u0085\\u2028\"" ∧
      readString ((Naming.quoteLiteral s).toList ++ ['"']) = some (s.toList, ['"']) ∧
      scanner.InCode ∧
      ((Naming.quoteLiteral s).toList ++ [')']).foldlM (Scanner.feed 2 1) (scanner, .afterSlash) =
        .error (.mismatched ')' ⟨.brace, 1, 0⟩) ∧
      scanner.scanLine 2 1 (Naming.quoteLiteral s).toList = .ok scanner := by
  intro s scanner
  have inCode : scanner.InCode := ⟨rfl, rfl⟩
  obtain ⟨read, -, -, scan⟩ := quoteLiteral_oneToken s
  obtain ⟨passed, alone⟩ := scan scanner 2 1 inCode
  refine ⟨by decide, read ['"'], inCode, ?_, alone⟩
  rw [passed .afterSlash (Or.inr rfl)]
  rfl

end TypedClient.Layout
