/-
# Lines of code

A line of code that closes nothing is printed at the level inside what is open, or one
deeper after an arrow. What a line declares shows in its first words, so a line that
starts with anything else than a word and a blank declares nothing.
-/

import TypedClient.Code.Expr
import TypedClient.Proofs.Layout.Piece
import TypedClient.Proofs.Layout.Step
import TypedClient.Proofs.Naming.Identifier
import TypedClient.Proofs.Text.Lines

namespace TypedClient.Layout

open Code (indentation)

/-! ## Lines that declare nothing -/

/-- A line that does not start with a word and a blank. -/
def StartsNoWord (text : List Char) : Prop :=
  ∀ rest, text.dropWhile Naming.isKeyPart ≠ ' ' :: rest

theorem StartsNoWord.not_isPrefixOf {text letters : List Char} (noWord : StartsNoWord text)
    (isWord : letters.all Naming.isKeyPart = true) :
    (letters ++ [' ']).isPrefixOf text = false := by
  rw [Bool.eq_false_iff, ne_eq, List.isPrefixOf_iff_prefix]
  rintro ⟨rest, rfl⟩
  refine noWord rest ?_
  rw [List.append_assoc, List.dropWhile_append_of_pos (List.all_eq_true.mp isWord)]
  rfl

/-- Only a word with a blank behind it declares something. -/
theorem StartsNoWord.declarationFault?_eq_none {text : List Char} (noWord : StartsNoWord text) :
    declarationFault? text = none := by
  have words : ∀ word ∈ "export ".toList :: "declare ".toList :: declarationWords,
      word = word.dropLast ++ [' '] ∧ word.dropLast.all Naming.isKeyPart = true := by decide
  have absent : ∀ word ∈ "export ".toList :: "declare ".toList :: declarationWords,
      word.isPrefixOf text = false := by
    intro word member
    obtain ⟨shape, isWord⟩ := words word member
    rw [shape]
    exact noWord.not_isPrefixOf isWord
  have same : dropWord "declare ".toList (dropWord "export ".toList text) = text := by
    rw [dropWord, dropWord, absent _ List.mem_cons_self, if_neg Bool.false_ne_true,
      absent _ (List.mem_cons_of_mem _ List.mem_cons_self), if_neg Bool.false_ne_true]
  have none : afterDeclaration? text = none := by
    rw [afterDeclaration?, List.find?_eq_none.mpr]
    · rfl
    · intro word member
      rw [absent word (List.mem_cons_of_mem _ (List.mem_cons_of_mem _ member))]
      exact Bool.false_ne_true
  have undeclared : declaredName? text = Option.none := by
    unfold declaredName?
    split
    · rfl
    · rfl
    · rw [same, none]
  rw [declarationFault?, undeclared]

theorem startsNoWord_cons {c : Char} (rest : List Char)
    (noPart : Naming.isKeyPart c = false := by decide) (notBlank : c ≠ ' ' := by decide) :
    StartsNoWord (c :: rest) := by
  intro tail
  rw [List.dropWhile_cons_of_neg (by simp [noPart])]
  exact fun same => notBlank (List.cons.inj same).1

/-- A word declares nothing if something else than a blank comes after it. -/
theorem StartsNoWord.append {word rest : List Char} (isWord : word.all Naming.isKeyPart = true)
    (noWord : StartsNoWord rest) : StartsNoWord (word ++ rest) := by
  intro tail
  rw [List.dropWhile_append_of_pos (List.all_eq_true.mp isWord)]
  exact noWord tail

/-! ## Lines that declare a name -/

/-- What is declared behind a declaration word, exported or not. -/
theorem declaredName?_declaration {start word : List Char}
    (isStart : start ∈ [[], "export ".toList]) (isWord : word ∈ declarationWords)
    (after : List Char) :
    declaredName? (start ++ word ++ after) =
      match after.dropWhile Text.isWhiteSpace with
      | '{' :: _ | '[' :: _ => none
      | after => some (after.takeWhile Naming.isIdentifierPart) := by
  simp only [declarationWords, List.map_cons, List.map_nil, List.mem_cons, List.not_mem_nil,
    or_false] at isStart isWord
  rcases isStart with rfl | rfl <;>
    rcases isWord with rfl | rfl | rfl | rfl | rfl | rfl | rfl <;> rfl

/-- A declaration of an identifier has no fault. -/
theorem declarationFault?_declaration {start word : List Char}
    (isStart : start ∈ [[], "export ".toList]) (isWord : word ∈ declarationWords) {name : String}
    (valid : Naming.isValidIdentifier name = true) {rest : List Char}
    (ends : ∀ c ∈ rest.head?, Naming.isIdentifierPart c = false) :
    declarationFault? (start ++ word ++ (name.toList ++ rest)) = none := by
  have isName := Naming.isName_of_isValidIdentifier valid
  obtain ⟨first, others, shape, isFirst⟩ := isName.start
  have firstPart : Naming.isIdentifierPart first = true :=
    isName.part first (by rw [shape]; exact List.mem_cons_self)
  have visible := Naming.isWhiteSpace_of_isIdentifierPart firstPart
  have munched : (name.toList ++ rest).takeWhile Naming.isIdentifierPart = name.toList := by
    rw [List.takeWhile_append_of_pos isName.part]
    cases rest with
    | nil => simp
    | cons c rest => rw [List.takeWhile_cons_of_neg (by simp [ends c rfl]), List.append_nil]
  have untrimmed : (name.toList ++ rest).dropWhile Text.isWhiteSpace = name.toList ++ rest := by
    rw [shape, List.cons_append, List.dropWhile_cons_of_neg (by simp [visible])]
  have declared : declaredName? (start ++ word ++ (name.toList ++ rest)) = some name.toList := by
    rw [declaredName?_declaration isStart isWord, untrimmed]
    split
    · rename_i opening
      rw [shape] at opening
      cases opening
      exact absurd isFirst (by decide)
    · rename_i opening
      rw [shape] at opening
      cases opening
      exact absurd isFirst (by decide)
    · rw [munched]
  rw [declarationFault?, declared]
  simp only [String.ofList_toList, valid, if_true]

theorem endsInArrow_of_last {text : List Char} (last : ∀ c ∈ text.getLast?, c ≠ '>') :
    endsInArrow text = false := by
  unfold endsInArrow
  split
  · rename_i rest reversed
    have isLast : text.getLast? = some '>' := by rw [← List.head?_reverse, reversed]; rfl
    exact absurd rfl (last '>' isLast)
  · rfl

/-! ## Lines of code -/

/-- The text of a line of code, without its indentation, that leaves some delimiters
open. -/
structure CodeText (text : List Char) (delimiters : List Delimiter) : Prop where
  noFeed : '\n' ∉ text
  code : .template ∉ delimiters
  scans : ∀ {scanner : Scanner} (number level : Nat), scanner.InCode →
    scanner.scanLine number level text = .ok (scanner.opened number level delimiters)
  trimmed : Text.IsTrimmed text
  notCloser : ∀ c ∈ text.head?, isCloser c = false
  declares : declarationFault? text = none

/-- A text that ends in a visible character that does not end an arrow. -/
def EndsPlainly (text : List Char) : Prop :=
  ∃ c, text.getLast? = some c ∧ Text.isWhiteSpace c = false ∧ c ≠ '>'

theorem endsPlainly_of_getLast? {text : List Char} {c : Char} (last : text.getLast? = some c)
    (visible : Text.isWhiteSpace c = false := by decide) (notArrow : c ≠ '>' := by decide) :
    EndsPlainly text :=
  ⟨c, last, visible, notArrow⟩

theorem endsPlainly_append_singleton {c : Char} (text : List Char)
    (visible : Text.isWhiteSpace c = false := by decide) (notArrow : c ≠ '>' := by decide) :
    EndsPlainly (text ++ [c]) :=
  endsPlainly_of_getLast? List.getLast?_concat visible notArrow

theorem EndsPlainly.prepend {text : List Char} (ends : EndsPlainly text) (before : List Char) :
    EndsPlainly (before ++ text) := by
  obtain ⟨c, last, plainly⟩ := ends
  exact ⟨c, by rw [List.getLast?_append, last]; rfl, plainly⟩

theorem EndsPlainly.endsInArrow_eq_false {text : List Char} (ends : EndsPlainly text) :
    endsInArrow text = false := by
  obtain ⟨c, last, -, notArrow⟩ := ends
  apply endsInArrow_of_last
  intro d isLast
  rw [last] at isLast
  cases isLast
  exact notArrow

theorem EndsPlainly.visible {text : List Char} (ends : EndsPlainly text) :
    ∀ c ∈ text.getLast?, Text.isWhiteSpace c = false := by
  obtain ⟨c, last, visible, -⟩ := ends
  intro d isLast
  rw [last] at isLast
  cases isLast
  exact visible

/-- A text that starts with a visible character that closes nothing. -/
def StartsPlainly (text : List Char) : Prop :=
  ∃ c rest, text = c :: rest ∧ Text.isWhiteSpace c = false ∧ isCloser c = false

theorem StartsPlainly.append {text : List Char} (starts : StartsPlainly text) (rest : List Char) :
    StartsPlainly (text ++ rest) := by
  obtain ⟨c, after, rfl, plainly⟩ := starts
  exact ⟨c, after ++ rest, rfl, plainly⟩

theorem startsPlainly_cons {c : Char} (rest : List Char)
    (visible : Text.isWhiteSpace c = false := by decide)
    (notCloser : isCloser c = false := by decide) : StartsPlainly (c :: rest) :=
  ⟨c, rest, rfl, visible, notCloser⟩

theorem startsPlainly_of_isName {name : String} (isName : Naming.IsName name) :
    StartsPlainly name.toList := by
  obtain ⟨first, rest, shape, -⟩ := isName.start
  have part := isName.part first (by rw [shape]; exact List.mem_cons_self)
  have notCloser : isCloser first = false := by
    rw [Bool.eq_false_iff]
    intro closes
    simp only [isCloser, Bool.or_eq_true, beq_iff_eq] at closes
    rcases closes with (rfl | rfl) | rfl <;> exact absurd part (by decide)
  exact ⟨first, rest, shape, Naming.isWhiteSpace_of_isIdentifierPart part, notCloser⟩

theorem endsPlainly_of_isName {name : String} (isName : Naming.IsName name) :
    EndsPlainly name.toList := by
  obtain ⟨first, rest, shape, -⟩ := isName.start
  have nonempty : name.toList ≠ [] := by simp [shape]
  have part := isName.part _ (List.getLast_mem nonempty)
  refine ⟨_, List.getLast?_eq_some_getLast nonempty,
    Naming.isWhiteSpace_of_isIdentifierPart part, fun same => ?_⟩
  rw [same] at part
  exact absurd part (by decide)

/-- A piece that starts and ends visibly and declares nothing wrong. -/
theorem Piece.codeText {text : List Char} {delimiters : List Delimiter}
    (piece : Piece text delimiters) (starts : StartsPlainly text)
    (ends : ∀ c ∈ text.getLast?, Text.isWhiteSpace c = false)
    (declares : declarationFault? text = none) : CodeText text delimiters := by
  obtain ⟨c, rest, rfl, visible, notCloser⟩ := starts
  refine ⟨piece.noFeed, piece.code, fun number level inCode => ?_,
    ⟨List.cons_ne_nil c rest, ?_, ends⟩, ?_, declares⟩
  · rw [Scanner.scanLine, piece.scans inCode]
    rfl
  · rintro d ⟨⟩
    exact visible
  · rintro d ⟨⟩
    exact notCloser

/-- A piece that can have a line of its own. -/
structure CodeLine (text : List Char) (delimiters : List Delimiter) : Prop where
  piece : Piece text delimiters
  starts : StartsPlainly text
  ends : EndsPlainly text
  declares : declarationFault? text = none

theorem CodeLine.codeText {text : List Char} {delimiters : List Delimiter}
    (line : CodeLine text delimiters) : CodeText text delimiters :=
  line.piece.codeText line.starts line.ends.visible line.declares

/-- Layout stands in code at some level, perhaps after an arrow. -/
structure State.Expects (state : State) (arrow : Bool) (level : Nat) : Prop where
  inCode : state.scanner.InCode
  inner : innerLevel state.scanner.stack = level
  afterArrow : state.afterArrow = arrow

/-- A line that closes nothing stands inside what is open, deeper after an arrow. -/
theorem State.Expects.levelOf {state : State} {arrow : Bool} {level : Nat}
    (expects : state.Expects arrow level) {text : List Char}
    (notCloser : ∀ c ∈ text.head?, isCloser c = false) :
    levelOf state text = level + arrow.toNat := by
  have closers : leadingClosers text = 0 := by
    rw [leadingClosers, List.length_eq_zero_iff, List.takeWhile_eq_nil_iff]
    intro positive
    refine Bool.eq_false_iff.mp (notCloser _ ?_)
    rw [List.head?_eq_getElem?]
    exact List.getElem?_eq_getElem positive
  rw [Layout.levelOf, expects.inCode.comment, closers, Nat.zero_min, expects.inner,
    expects.afterArrow]
  cases arrow <;> rfl

theorem toList_indentation (level : Nat) :
    (indentation level).toList = List.replicate (2 * level) ' ' := by
  simp [indentation]

theorem isWhiteSpace_of_mem_indentation {level : Nat} {c : Char}
    (member : c ∈ (indentation level).toList) : Text.isWhiteSpace c = true := by
  rw [toList_indentation] at member
  rw [List.eq_of_mem_replicate member]
  decide

/-- The padding of a line of code is its indentation. -/
theorem padding_code (level : Nat) (text : List Char) :
    padding 2 level false text = (indentation level).toList := by
  rw [toList_indentation, Nat.mul_comm]
  simp [padding]

/-- A text behind its indentation is found by trimming. -/
theorem trimList_indentation {text : List Char} (trimmed : Text.IsTrimmed text) (level : Nat) :
    Text.trimList ((indentation level).toList ++ text) = text :=
  Text.trimList_append_of_isTrimmed (fun _ => isWhiteSpace_of_mem_indentation) trimmed

/-- A trimmed text behind its indentation has no trailing white space. -/
theorem trimEndList_indentation {text : List Char} (trimmed : Text.IsTrimmed text) (level : Nat) :
    Text.trimEndList ((indentation level).toList ++ text) = (indentation level).toList ++ text := by
  apply Text.trimEndList_of_last
  intro c last
  rw [List.getLast?_append_of_ne_nil _ trimmed.nonempty] at last
  exact trimmed.last c last

/-- A line of code is scanned and printed as it is, at the level it is expected at. -/
theorem CodeText.step {text : List Char} {delimiters : List Delimiter}
    (code : CodeText text delimiters) {state : State} {arrow : Bool} {level place : Nat}
    (number : Nat) (expects : state.Expects arrow level) (isPlace : level + arrow.toNat = place) :
    step 2 state number ((indentation place).toList ++ text) =
      .ok
        { scanner := state.scanner.opened number place delimiters
          printed := ((indentation place).toList ++ text) :: state.printed
          afterArrow := if startsComment text then arrow else endsInArrow text } := by
  have found : levelOf state text = place :=
    (expects.levelOf code.notCloser).trans isPlace
  rw [step_of_not_inTemplate expects.inCode.template, trimList_indentation code.trimmed,
    if_neg code.trimmed.nonempty]
  refine codeLine_eq_ok_iff.mpr ⟨fun _ => code.declares, _, code.scans number _ expects.inCode, ?_⟩
  rw [afterCode, found, expects.inCode.comment, expects.afterArrow, padding_code]
  rfl

end TypedClient.Layout
