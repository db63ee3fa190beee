/-
# Emitted modules

A module is built of blocks with a blank line between them. If layout keeps every
block, it keeps the module: the blank line stays, because the line before it is not
blank, and nothing is open at the end. The first block is the preamble, so later ones
are never the first.
-/

import TypedClient.Module
import TypedClient.Proofs.Declaration.Comment

namespace TypedClient.Layout

open Code (indentation)

/-! ## Blocks -/

/-- Text of whole lines that layout keeps and whose last line is not blank. -/
structure Block (text : List Char) : Prop where
  emitted : Emitted false 0 text
  ends : ∃ front c, text = front ++ [c, '\n'] ∧ Text.isWhiteSpace c = false

/-- The last of some lines, if their text ends in a visible character. -/
theorem exists_last_line {lines : List (List Char)} {front : List Char} {c : Char}
    (isText : Text.joinLines lines = front ++ [c, '\n']) (visible : Text.isWhiteSpace c = false) :
    ∃ before last, lines = before ++ [last] ∧ Text.trimEndList last ≠ [] := by
  have nonempty : lines ≠ [] := by
    rintro rfl
    simp at isText
  obtain ⟨before, last, rfl⟩ : ∃ before last, lines = before ++ [last] :=
    ⟨lines.dropLast, lines.getLast nonempty, (List.dropLast_append_getLast nonempty).symm⟩
  refine ⟨before, last, rfl, fun blank => ?_⟩
  have together : Text.joinLines before ++ last = front ++ [c] := by
    rw [Text.joinLines_append, Text.joinLines_cons, Text.joinLines_nil] at isText
    have together : Text.joinLines before ++ last ++ ['\n'] = front ++ [c] ++ ['\n'] := by
      simpa using isText
    exact List.append_cancel_right together
  have atEnd : (Text.joinLines before ++ last).getLast? = some c := by
    rw [together, List.getLast?_concat]
  rcases List.eq_nil_or_concat last with rfl | ⟨others, d, rfl⟩
  · rw [List.append_nil] at atEnd
    rw [Text.eq_newline_of_getLast?_joinLines atEnd] at visible
    exact absurd visible (by decide)
  · rw [List.concat_eq_append, ← List.append_assoc, List.getLast?_concat] at atEnd
    cases atEnd
    rw [List.concat_eq_append, Text.trimEndList_concat visible] at blank
    exact absurd blank (by simp)

/-- Stretches with a blank line between them. -/
theorem LaidOut.separated {first second : List (List Char)} {last : List Char}
    (head : LaidOut false 0 (first ++ [last])) (visible : Text.trimEndList last ≠ [])
    (tail : LaidOut false 0 second) : LaidOut false 0 (first ++ [last] ++ [] :: second) := by
  intro state number expects
  let between : State :=
    { state with
      printed := ((first ++ [last]).map Text.trimEndList).reverse ++ state.printed
      afterArrow := false }
  let next : State := { between with printed := [] :: between.printed }
  have stepped : ∀ number, step 2 between number [] = .ok next := by
    intro number
    have before : between.printed =
        Text.trimEndList last :: ((first.map Text.trimEndList).reverse ++ state.printed) := by
      simp [between]
    obtain ⟨c, rest, shape⟩ := List.exists_cons_of_ne_nil visible
    have added : blankLine between = next := by
      rw [blankLine, before, shape]
      simp only [next, before, shape]
    have outside : between.scanner.inTemplate = false := expects.inCode.template
    have isBlank : Text.trimList [] = [] := rfl
    rw [step_of_not_inTemplate outside, if_pos isBlank, added]
  have expectsNext : next.Expects false 0 := ⟨expects.inCode, expects.inner, rfl⟩
  refine run_append_eq_ok_iff.mpr ⟨between, head state number expects,
    run_cons_eq_ok_iff.mpr ⟨next, stepped _, ?_⟩⟩
  have blank : Text.trimEndList [] = [] := rfl
  rw [tail next _ expectsNext]
  simp [next, between, blank]

/-- A blank line between two blocks is kept. -/
theorem Block.separated {first second : List Char} (head : Block first) (tail : Block second) :
    Block (first ++ '\n' :: second) := by
  obtain ⟨⟨lines, rfl, isLine, laidOut⟩, front, c, ends, visible⟩ := head
  obtain ⟨⟨others, rfl, isLine', laidOut'⟩, front', c', ends', visible'⟩ := tail
  obtain ⟨before, last, rfl, notBlank⟩ := exists_last_line ends visible
  have emptyLine : Text.IsLine [] := ⟨List.not_mem_nil, by decide⟩
  refine ⟨⟨before ++ [last] ++ [] :: others, ?_, ?_, laidOut.separated notBlank laidOut'⟩,
    Text.joinLines (before ++ [last]) ++ '\n' :: front', c', ?_, visible'⟩
  · simp
  · intro line member
    rcases List.mem_append.mp member with inFirst | inSecond
    · exact isLine line inFirst
    · rcases List.mem_cons.mp inSecond with rfl | inSecond
      · exact emptyLine
      · exact isLine' line inSecond
  · rw [ends']
    simp

/-- Layout keeps a block but for the white space at the ends of its lines. -/
theorem Block.layout {text : String} (block : Block text.toList) (language : Language) :
    Formatter.layout text language {} = .ok (Text.trimLineEnds text) := by
  obtain ⟨⟨lines, isText, isLine, laidOut⟩, front, c, ends, visible⟩ := block
  obtain ⟨before, last, rfl, notBlank⟩ := exists_last_line (isText ▸ ends) visible
  have trimmed := Text.toList_trimLineEnds isText fun line member => (isLine line member).noFeed
  have start : State.Expects {} false 0 := ⟨⟨rfl, rfl⟩, rfl, rfl⟩
  have formatted : formatList 2 text.toList = .ok (Text.trimLineEnds text).toList := by
    let final : State :=
      { scanner := {}
        printed := ((before ++ [last]).map Text.trimEndList).reverse
        afterArrow := false }
    have ran := laidOut {} 1 start
    rw [List.append_nil] at ran
    refine formatList_eq_ok_iff.mpr ⟨final, ?_, rfl, ?_⟩
    · rw [isText, Text.lineLists_joinLines isLine]
      exact ran
    · obtain ⟨c, rest, shape⟩ := List.exists_cons_of_ne_nil notBlank
      have kept : final.printed.dropWhile List.isEmpty = final.printed := by
        simp [final, shape]
      rw [trimmed, printedText, kept, List.reverse_reverse, List.map_append, List.map_singleton]
      exact (Text.intercalate_append_newline (by simp)).symm
  have width : ({} : FormatStyle).tabWidth = 2 := rfl
  rw [Formatter.layout, width, formatted]
  simp

/-! ## Building modules -/

/-- A block ends in one line feed. -/
theorem Block.closeBlock {text : List Char} (block : Block (text ++ ['\n'])) :
    Module.closeBlock text = text ++ ['\n'] ∧
      Module.closeBlock (text ++ ['\n']) = text ++ ['\n'] := by
  obtain ⟨-, front, c, ends, visible⟩ := block
  have notFeed : c ≠ '\n' := fun same => absurd visible (by rw [same]; decide)
  have together : text ++ ['\n'] = front ++ [c] ++ ['\n'] := by simpa using ends
  have shape : text = front ++ [c] := List.append_cancel_right together
  have stays : Text.dropEndWhile (· == '\n') text = text := by
    rw [Text.dropEndWhile, shape, List.reverse_append, List.reverse_singleton,
      List.singleton_append, List.dropWhile_cons_of_neg (by simpa using notFeed)]
    simp
  have dropped : Text.dropEndWhile (· == '\n') (text ++ ['\n']) =
      Text.dropEndWhile (· == '\n') text := by
    rw [Text.dropEndWhile, List.reverse_append, List.reverse_singleton, List.singleton_append,
      List.dropWhile_cons_of_pos (by rfl), ← Text.dropEndWhile]
  rw [Module.closeBlock, Module.closeBlock, dropped, stays]
  exact ⟨rfl, rfl⟩

/-- A block stays a block when it is closed. -/
theorem Block.closed {text : List Char} (block : Block text) : Block (Module.closeBlock text) := by
  obtain ⟨front, c, ends, -⟩ := block.ends
  have shape : text = front ++ [c] ++ ['\n'] := by simpa using ends
  rw [shape] at block ⊢
  rw [block.closeBlock.2]
  exact block

/-- A line of code is a block when it is closed. -/
theorem block_line {text : List Char} (isLine : CodeLine text []) :
    Block (Module.closeBlock text) := by
  have block : Block (text ++ ['\n']) := by
    have line : Emitted false 0 ((indentation 0).toList ++ text ++ ['\n']) :=
      Emitted.codeLine isLine
    obtain ⟨c, last, visible, -⟩ := isLine.ends
    obtain ⟨front, rfl⟩ := List.getLast?_eq_some_iff.mp last
    exact ⟨by simpa [toList_indentation] using line, front, c, by simp, visible⟩
  rw [block.closeBlock.1]
  exact block

theorem Block.separator {text : List Char} (block : Block text) :
    Module.separator text = ['\n'] := by
  obtain ⟨-, front, c, rfl, visible⟩ := block
  have notFeed : c ≠ '\n' := fun same => absurd visible (by rw [same]; decide)
  simp [Module.separator, notFeed]

/-- A block put after blocks gives blocks. -/
theorem Block.appendBlock {text block : List Char} (head : Block text)
    (tail : Block (Module.closeBlock block)) : Block (Module.appendBlock text block) := by
  rw [Module.appendBlock, head.separator, List.append_assoc]
  exact head.separated tail

theorem block_addUnit {module : Module} (holds : Block module.text.toList) (name : String)
    {block : String} (isBlock : Block (Module.closeBlock block.toList)) :
    Block (module.addUnit name block).text.toList := by
  rw [Module.addUnit, String.toList_ofList]
  exact holds.appendBlock isBlock

theorem block_addRaw {module : Module} (holds : Block module.text.toList) {block : String}
    (isBlock : Text.isBlank block = false → Block (Module.closeBlock block.toList)) :
    Block (module.addRaw block).text.toList := by
  unfold Module.addRaw
  split
  · exact holds
  · rename_i notBlank
    rw [String.toList_ofList]
    exact holds.appendBlock (isBlock (by simpa using notBlank))

/-- Adding units to blocks gives blocks. -/
theorem block_foldl_addUnit {α : Type} {items : List α} {name text : α → String}
    {module : Module} (holds : Block module.text.toList)
    (each : ∀ item ∈ items, Block (Module.closeBlock (text item).toList)) :
    Block (items.foldl (fun module item => module.addUnit (name item) (text item))
      module).text.toList := by
  induction items generalizing module with
  | nil => exact holds
  | cons item items ih =>
      rw [List.foldl_cons]
      exact ih (block_addUnit holds (name item) (each item List.mem_cons_self))
        fun other member => each other (List.mem_cons_of_mem item member)

/-! ## The preamble -/

/-- The rest of a line behind two slashes is not looked at. -/
theorem codeText_lineComment {text : List Char} (noFeed : '\n' ∉ text)
    (ends : ∀ c ∈ text.getLast?, Text.isWhiteSpace c = false) :
    CodeText ('/' :: '/' :: text) [] := by
  have rest : ∀ (scanner : Scanner) (number level : Nat),
      text.foldlM (Scanner.feed number level) (scanner, .lineComment) =
        .ok (scanner, .lineComment) := by
    intro scanner number level
    clear noFeed ends
    induction text with
    | nil => rfl
    | cons c text ih => exact (Scanner.foldlM_cons_of_eq_ok rfl).trans ih
  refine ⟨?_, List.not_mem_nil, fun number level inCode => ?_,
    ⟨List.cons_ne_nil _ _, by rintro c ⟨⟩; decide, ?_⟩, by rintro c ⟨⟩; decide,
    StartsNoWord.declarationFault?_eq_none (startsNoWord_cons _)⟩
  · simpa using noFeed
  · rw [Scanner.scanLine, Scanner.foldlM_cons_of_eq_ok (inCode.feed '/'),
      Scanner.foldlM_cons_of_eq_ok rfl, rest]
    rfl
  · intro c last
    cases text with
    | nil =>
        cases last
        decide
    | cons d others => exact ends c (by simpa using last)

theorem block_preamble : Block Module.preamble.toList := by
  have first : Emitted false 0 "/* eslint-disable */\n".toList := by
    have body : CommentBody " eslint-disable".toList :=
      ⟨by decide, fun inside => absurd (inside.subset List.mem_cons_self) (by decide)⟩
    have noWord : StartsNoWord "/* eslint-disable */".toList := startsNoWord_cons _
    have line : CodeLine "/* eslint-disable */".toList [] :=
      ⟨body.piece, startsPlainly_cons _, endsPlainly_of_getLast? rfl,
        noWord.declarationFault?_eq_none⟩
    exact Emitted.codeLine line
  have second : Emitted false 0 "// generated by swaggen\n".toList := by
    have code : CodeText "// generated by swaggen".toList [] :=
      codeText_lineComment (by decide) (by rintro c ⟨⟩; decide)
    exact Emitted.line code rfl
  exact ⟨first.append second, "/* eslint-disable */\n// generated by swagge".toList, 'n',
    by decide, by decide⟩

/-- A module begins with a block. -/
theorem block_start (name : String) (kind : ModuleKind) :
    Block ((Module.start name kind).addRaw Module.preamble).text.toList := by
  have text : ((Module.start name kind).addRaw Module.preamble).text.toList =
      Module.closeBlock Module.preamble.toList := by
    unfold Module.addRaw
    rw [if_neg (by decide), String.toList_ofList]
    rfl
  rw [text]
  exact block_preamble.closed

end TypedClient.Layout
