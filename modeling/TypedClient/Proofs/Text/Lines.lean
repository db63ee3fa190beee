/-
# Lines and trimming

Facts about cutting a text into lines and about trimming a line. A text whose
lines end in line feeds is cut back into these lines, as long as no line carries
the sign of a line end itself. Trimming undoes padding by blanks, and it never
brings in a character.
-/

import Mathlib.Data.List.DropRight
import TypedClient.Text.Lines

namespace TypedClient.Text

/-! ## Lines with their line feeds -/

/-- The text of some lines, each with its line feed. -/
def joinLines (lines : List (List Char)) : List Char :=
  lines.flatMap (· ++ ['\n'])

@[simp]
theorem joinLines_nil : joinLines [] = [] := rfl

@[simp]
theorem joinLines_cons (line : List Char) (lines : List (List Char)) :
    joinLines (line :: lines) = line ++ '\n' :: joinLines lines := by
  simp [joinLines]

@[simp]
theorem joinLines_append (first second : List (List Char)) :
    joinLines (first ++ second) = joinLines first ++ joinLines second := by
  simp [joinLines]

/-- Joined lines end in a line feed, if they are not empty. -/
theorem eq_newline_of_getLast?_joinLines {lines : List (List Char)} {c : Char}
    (last : (joinLines lines).getLast? = some c) : c = '\n' := by
  rcases List.eq_nil_or_concat lines with rfl | ⟨before, line, rfl⟩
  · cases last
  · rw [List.concat_eq_append, joinLines_append, joinLines_cons, joinLines_nil,
      ← List.append_assoc, List.getLast?_concat] at last
    exact (Option.some.inj last).symm

/-- Line feeds between lines and one at the end are line feeds after each line. -/
theorem intercalate_append_newline {lines : List (List Char)} (nonempty : lines ≠ []) :
    List.intercalate ['\n'] lines ++ ['\n'] = joinLines lines := by
  induction lines with
  | nil => exact absurd rfl nonempty
  | cons line rest ih =>
      cases rest with
      | nil => simp
      | cons next rest =>
          have tail := ih (List.cons_ne_nil next rest)
          rw [List.intercalate_cons_cons, List.append_assoc, List.append_assoc, tail]
          simp

/-- What stands between two line ends: no line feed, and no carriage return that
a line feed would swallow. -/
structure IsLine (line : List Char) : Prop where
  noFeed : '\n' ∉ line
  noReturn : line.getLast? ≠ some '\r'

theorem closeLine_reverse {line : List Char} (noReturn : line.getLast? ≠ some '\r') :
    closeLine line.reverse = line := by
  unfold closeLine
  split
  · rename_i cs reversed
    have last : line.reverse.head? = some '\r' := by rw [reversed]; rfl
    rw [List.head?_reverse] at last
    exact absurd last noReturn
  · exact List.reverse_reverse line

/-- A line end takes nothing but its carriage return from a line. -/
theorem exists_closeLine_reverse (line : List Char) :
    ∃ ending, line = closeLine line.reverse ++ ending ∧ ∀ c ∈ ending, c = '\r' := by
  unfold closeLine
  split
  · rename_i cs reversed
    refine ⟨['\r'], ?_, by simp⟩
    rw [← List.reverse_cons, ← reversed, List.reverse_reverse]
  · exact ⟨[], by simp, by simp⟩

/-- A line feed ends the pending line. -/
theorem linesFrom_newline (current rest : List Char) :
    linesFrom current ('\n' :: rest) = closeLine current :: linesFrom [] rest := by
  cases current <;> rw [linesFrom]

theorem linesFrom_append_newline {line : List Char} (noFeed : '\n' ∉ line)
    (current rest : List Char) :
    linesFrom current (line ++ '\n' :: rest) =
      closeLine (line.reverse ++ current) :: linesFrom [] rest := by
  induction line generalizing current with
  | nil => exact linesFrom_newline current rest
  | cons c line ih =>
      have differs : c ≠ '\n' := fun same => noFeed (same ▸ List.mem_cons_self)
      have noFeedRest : '\n' ∉ line := fun member => noFeed (List.mem_cons_of_mem c member)
      have step : linesFrom current (c :: (line ++ '\n' :: rest)) =
          linesFrom (c :: current) (line ++ '\n' :: rest) := by
        cases current <;> simp [linesFrom]
      rw [List.cons_append, step, ih noFeedRest]
      simp

/-- A last line with no line feed counts if it is not empty. -/
theorem lineLists_of_noFeed {line : List Char} (noFeed : '\n' ∉ line) :
    lineLists line = if line = [] then [] else [line] := by
  have pending (current : List Char) : linesFrom current line =
      if line.reverse ++ current = [] then [] else [(line.reverse ++ current).reverse] := by
    induction line generalizing current with
    | nil => cases current <;> simp [linesFrom]
    | cons c line ih =>
        obtain ⟨differs, noFeedRest⟩ := not_or.mp (mt List.mem_cons.mpr noFeed)
        have step : linesFrom current (c :: line) = linesFrom (c :: current) line := by
          cases current <;> simp [linesFrom, Ne.symm differs]
        rw [step, ih noFeedRest]
        simp
  rw [lineLists, pending]
  simp

/-- Cutting into lines undoes putting lines together. -/
theorem lineLists_joinLines {lines : List (List Char)} (isLine : ∀ line ∈ lines, IsLine line) :
    lineLists (joinLines lines) = lines := by
  induction lines with
  | nil => rfl
  | cons line rest ih =>
      have first := isLine line List.mem_cons_self
      have tail : lineLists (joinLines rest) = rest :=
        ih fun other member => isLine other (List.mem_cons_of_mem line member)
      rw [joinLines_cons, lineLists, linesFrom_append_newline first.noFeed, List.append_nil,
        closeLine_reverse first.noReturn]
      exact congrArg (line :: ·) tail

/-- The lines of a text hold only its characters, and no line feed. -/
theorem mem_linesFrom {c : Char} {line current text : List Char}
    (member : line ∈ linesFrom current text) (inLine : c ∈ line) :
    c ∈ current ∨ (c ∈ text ∧ c ≠ '\n') := by
  have closed : ∀ {reversed : List Char}, c ∈ closeLine reversed → c ∈ reversed := by
    intro reversed inside
    unfold closeLine at inside
    split at inside <;> simp_all
  induction text generalizing current with
  | nil =>
      cases current with
      | nil => simp [linesFrom] at member
      | cons d current =>
          rw [linesFrom, List.mem_singleton] at member
          subst member
          exact Or.inl (List.mem_reverse.mp inLine)
  | cons d rest ih =>
      by_cases feed : d = '\n'
      · subst feed
        rw [linesFrom_newline, List.mem_cons] at member
        rcases member with rfl | inRest
        · exact Or.inl (closed inLine)
        · rcases ih inRest with inNil | ⟨inText, differs⟩
          · cases inNil
          · exact Or.inr ⟨List.mem_cons_of_mem _ inText, differs⟩
      · have step : linesFrom current (d :: rest) = linesFrom (d :: current) rest := by
          cases current <;> simp [linesFrom]
        rw [step] at member
        rcases ih member with inCurrent | ⟨inText, differs⟩
        · rcases List.mem_cons.mp inCurrent with rfl | inCurrent
          · exact Or.inr ⟨List.mem_cons_self, feed⟩
          · exact Or.inl inCurrent
        · exact Or.inr ⟨List.mem_cons_of_mem _ inText, differs⟩

theorem isPrefix_closeLine (current : List Char) : closeLine current <+: current.reverse := by
  unfold closeLine
  split
  · rename_i cs
    exact ⟨['\r'], List.reverse_cons.symm⟩
  · exact List.prefix_rfl

/-- A line of a text is a stretch of it. -/
theorem infix_of_mem_linesFrom {line current text : List Char}
    (member : line ∈ linesFrom current text) : line <:+: current.reverse ++ text := by
  induction text generalizing current with
  | nil =>
      cases current with
      | nil => simp [linesFrom] at member
      | cons c current =>
          rw [linesFrom, List.mem_singleton] at member
          exact ⟨[], [], by simp [member]⟩
  | cons c rest ih =>
      by_cases feed : c = '\n'
      · rw [feed, linesFrom_newline, List.mem_cons] at member
        rcases member with rfl | inRest
        · exact ((isPrefix_closeLine current).trans (List.prefix_append _ _)).isInfix
        · have suffix : rest <:+ current.reverse ++ c :: rest :=
            (List.suffix_cons c rest).trans (List.suffix_append _ _)
          exact (ih inRest).trans suffix.isInfix
      · have step : linesFrom current (c :: rest) = linesFrom (c :: current) rest := by
          cases current <;> simp [linesFrom]
        rw [step] at member
        simpa using ih member

theorem infix_of_mem_lineLists {line text : List Char} (member : line ∈ lineLists text) :
    line <:+: text :=
  infix_of_mem_linesFrom member

/-! ## Trimming -/

theorem mem_of_mem_trimEndList {c : Char} {line : List Char} (member : c ∈ trimEndList line) :
    c ∈ line :=
  (List.rdropWhile_prefix isWhiteSpace line).subset member

theorem mem_of_mem_trimList {c : Char} {line : List Char} (member : c ∈ trimList line) :
    c ∈ line :=
  (List.dropWhile_suffix isWhiteSpace).subset (mem_of_mem_trimEndList member)

theorem isWhiteSpace_of_mem_takeWhile {c : Char} {text : List Char}
    (member : c ∈ text.takeWhile isWhiteSpace) : isWhiteSpace c = true :=
  List.all_eq_true.mp List.all_takeWhile c member

/-- Trimming cuts off white space only. -/
theorem exists_blanks_trimEndList (line : List Char) :
    ∃ after, line = trimEndList line ++ after ∧ ∀ c ∈ after, isWhiteSpace c = true := by
  refine ⟨(line.reverse.takeWhile isWhiteSpace).reverse, ?_, fun c member => ?_⟩
  · rw [trimEndList, dropEndWhile, ← List.reverse_append, List.takeWhile_append_dropWhile,
      List.reverse_reverse]
  · exact isWhiteSpace_of_mem_takeWhile (List.mem_reverse.mp member)

theorem exists_blanks_trimList (line : List Char) :
    ∃ before after, line = before ++ trimList line ++ after ∧
      (∀ c ∈ before, isWhiteSpace c = true) ∧ ∀ c ∈ after, isWhiteSpace c = true := by
  obtain ⟨after, isRest, blank⟩ := exists_blanks_trimEndList (line.dropWhile isWhiteSpace)
  refine ⟨line.takeWhile isWhiteSpace, after, ?_, fun c => isWhiteSpace_of_mem_takeWhile, blank⟩
  rw [List.append_assoc, trimList, ← isRest, List.takeWhile_append_dropWhile]

/-- White space at the end of a line is trimmed. -/
theorem trimEndList_append_blanks {blanks : List Char}
    (blank : ∀ c ∈ blanks, isWhiteSpace c = true) (line : List Char) :
    trimEndList (line ++ blanks) = trimEndList line := by
  unfold trimEndList dropEndWhile
  rw [List.reverse_append,
    List.dropWhile_append_of_pos fun c member => blank c (List.mem_reverse.mp member)]

theorem trimList_append_blanks {blanks : List Char}
    (blank : ∀ c ∈ blanks, isWhiteSpace c = true) (line : List Char) :
    trimList (line ++ blanks) = trimList line := by
  unfold trimList
  rw [List.dropWhile_append]
  split
  · rename_i allBlank
    rw [List.isEmpty_iff.mp allBlank, List.dropWhile_eq_nil_iff.mpr blank]
  · exact trimEndList_append_blanks blank _

/-- A text that neither starts nor ends in white space and is not empty. -/
structure IsTrimmed (line : List Char) : Prop where
  nonempty : line ≠ []
  first : ∀ c ∈ line.head?, isWhiteSpace c = false
  last : ∀ c ∈ line.getLast?, isWhiteSpace c = false

/-- What stays of a line that starts with a visible character is never empty. -/
theorem trimEndList_cons {c : Char} (visible : isWhiteSpace c = false) (line : List Char) :
    trimEndList (c :: line) = c :: trimEndList line := by
  unfold trimEndList dropEndWhile
  rw [List.reverse_cons, List.dropWhile_append]
  split
  · rename_i blank
    rw [List.isEmpty_iff] at blank
    simp [blank, visible]
  · simp

/-- Trimming the end passes over what stands in front of a visible character. -/
theorem trimEndList_append_cons {c : Char} (visible : isWhiteSpace c = false)
    (padding line : List Char) :
    trimEndList (padding ++ c :: line) = padding ++ trimEndList (c :: line) := by
  have stays : (c :: line).reverse.dropWhile isWhiteSpace ≠ [] := by
    intro gone
    have blank := List.dropWhile_eq_nil_iff.mp gone c (by simp)
    rw [visible] at blank
    cases blank
  unfold trimEndList dropEndWhile
  rw [List.reverse_append, List.dropWhile_append, if_neg (by simpa using stays)]
  simp

/-- A padded line is trimmed to the line without its trailing white space. -/
theorem trimList_padded {padding line : List Char} {c : Char}
    (blank : ∀ d ∈ padding, isWhiteSpace d = true) (visible : isWhiteSpace c = false) :
    trimList (padding ++ c :: line) = trimEndList (c :: line) := by
  unfold trimList
  rw [List.dropWhile_append_of_pos blank, List.dropWhile_cons_of_neg (by simp [visible])]

theorem trimEndList_of_last {line : List Char}
    (last : ∀ c ∈ line.getLast?, isWhiteSpace c = false) : trimEndList line = line := by
  apply List.rdropWhile_eq_self_iff.mpr
  intro nonempty
  have visible := last _ (List.getLast?_eq_some_getLast nonempty)
  simp [visible]

theorem trimEndList_concat {c : Char} (visible : isWhiteSpace c = false) (line : List Char) :
    trimEndList (line ++ [c]) = line ++ [c] := by
  apply trimEndList_of_last
  intro d last
  rw [List.getLast?_concat] at last
  cases last
  exact visible

/-- Trimming undoes the padding of a trimmed line. -/
theorem trimList_append_of_isTrimmed {padding line : List Char}
    (blank : ∀ d ∈ padding, isWhiteSpace d = true) (trimmed : IsTrimmed line) :
    trimList (padding ++ line) = line := by
  obtain ⟨nonempty, first, last⟩ := trimmed
  cases line with
  | nil => exact absurd rfl nonempty
  | cons c rest =>
      rw [trimList_padded blank (first c rfl)]
      exact trimEndList_of_last last

/-- What trimming leaves is nothing or a trimmed text. -/
theorem isTrimmed_trimList {line : List Char} (nonempty : trimList line ≠ []) :
    IsTrimmed (trimList line) := by
  refine ⟨nonempty, fun c head => ?_, fun c last => ?_⟩
  · unfold trimList at head nonempty
    cases shape : line.dropWhile isWhiteSpace with
    | nil => exact absurd (by rw [shape]; rfl) nonempty
    | cons d rest =>
        have visible : isWhiteSpace d = false := by
          have notBlank := List.head?_dropWhile_not isWhiteSpace line
          rw [shape] at notBlank
          simpa using notBlank
        rw [shape, trimEndList_cons visible] at head
        cases head
        exact visible
  · have notBlank := List.rdropWhile_last_not isWhiteSpace (line.dropWhile isWhiteSpace) nonempty
    rw [List.getLast?_eq_some_getLast nonempty] at last
    cases last
    exact Bool.eq_false_iff.mpr notBlank

/-! ## Pieces of a text -/

section

variable {p : Char → Bool} {text : List Char}

theorem splitFrom_append {c : Char} (cuts : p c = true) (text current rest : List Char) :
    splitFrom p current (text ++ c :: rest) = splitFrom p current text ++ splitOn p rest := by
  induction text generalizing current with
  | nil => simp [splitFrom, splitOn, cuts]
  | cons d text ih => by_cases also : p d = true <;> simp [splitFrom, also, ih]

/-- A text is cut into the pieces before a cut and the pieces after it. -/
theorem splitOn_append {c : Char} (cuts : p c = true) (text rest : List Char) :
    splitOn p (text ++ c :: rest) = splitOn p text ++ splitOn p rest :=
  splitFrom_append cuts text [] rest

theorem splitFrom_of_forall_not (absent : ∀ c ∈ text, p c = false) (current : List Char) :
    splitFrom p current text = [current.reverse ++ text] := by
  induction text generalizing current with
  | nil => simp [splitFrom]
  | cons c rest ih =>
      obtain ⟨first, others⟩ := List.forall_mem_cons.mp absent
      rw [splitFrom, first, if_neg Bool.false_ne_true, ih others]
      simp

/-- A text without a cut is one piece. -/
theorem splitOn_of_forall_not (absent : ∀ c ∈ text, p c = false) : splitOn p text = [text] :=
  splitFrom_of_forall_not absent []

end

/-! ## Pieces between line feeds -/

theorem length_splitFrom_newline (current text : List Char) :
    (splitFrom (· == '\n') current text).length = text.count '\n' + 1 := by
  induction text generalizing current with
  | nil => rfl
  | cons c text ih => by_cases feed : c = '\n' <;> simp [splitFrom, feed, ih]

/-- A text has one piece more than line feeds. -/
theorem length_splitOn_newline (text : List Char) :
    (splitOn (· == '\n') text).length = text.count '\n' + 1 :=
  length_splitFrom_newline [] text

theorem intercalate_splitFrom_newline (current text : List Char) :
    List.intercalate ['\n'] (splitFrom (· == '\n') current text) = current.reverse ++ text := by
  induction text generalizing current with
  | nil => simp [splitFrom]
  | cons c text ih =>
      by_cases feed : c = '\n'
      · have isNotEmpty : splitFrom (· == '\n') [] text ≠ [] := by
          refine List.ne_nil_of_length_pos ?_
          rw [length_splitFrom_newline]
          exact Nat.succ_pos _
        obtain ⟨piece, pieces, isCons⟩ := List.exists_cons_of_ne_nil isNotEmpty
        rw [splitFrom, if_pos (beq_iff_eq.mpr feed), isCons, List.intercalate_cons_cons, ← isCons,
          ih, feed]
        simp
      · rw [splitFrom, if_neg (by simp [feed]), ih]
        simp

theorem noFeed_of_mem_splitFrom {piece current text : List Char} (noFeed : '\n' ∉ current)
    (member : piece ∈ splitFrom (· == '\n') current text) : '\n' ∉ piece := by
  induction text generalizing current with
  | nil =>
      rw [splitFrom, List.mem_singleton] at member
      rw [member, List.mem_reverse]
      exact noFeed
  | cons c text ih =>
      by_cases feed : c = '\n'
      · rw [splitFrom, if_pos (beq_iff_eq.mpr feed), List.mem_cons] at member
        rcases member with rfl | inRest
        · rw [List.mem_reverse]
          exact noFeed
        · exact ih List.not_mem_nil inRest
      · rw [splitFrom, if_neg (by simp [feed])] at member
        exact ih (by simp [noFeed, Ne.symm feed]) member

/-- No piece has a line feed. -/
theorem noFeed_of_mem_splitOn {piece text : List Char}
    (member : piece ∈ splitOn (· == '\n') text) : '\n' ∉ piece :=
  noFeed_of_mem_splitFrom List.not_mem_nil member

/-- The pieces make up the text, with the line feeds between them. -/
theorem intercalate_splitOn_newline (text : List Char) :
    List.intercalate ['\n'] (splitOn (· == '\n') text) = text :=
  intercalate_splitFrom_newline [] text

/-! ## Trimming every line -/

/-- A text without the white space at the end of each of its lines. -/
def trimLineEnds (text : String) : String :=
  String.ofList
    (List.intercalate ['\n'] ((splitOn (· == '\n') text.toList).map trimEndList))

/-- Cutting at line feeds gives the lines and the empty stretch after the last one. -/
theorem splitOn_joinLines {lines : List (List Char)} (noFeed : ∀ line ∈ lines, '\n' ∉ line) :
    splitOn (· == '\n') (joinLines lines) = lines ++ [[]] := by
  induction lines with
  | nil => rfl
  | cons line rest ih =>
      have tail : splitOn (· == '\n') (joinLines rest) = rest ++ [[]] :=
        ih fun other member => noFeed other (List.mem_cons_of_mem line member)
      have oneLine : splitOn (· == '\n') line = [line] :=
        splitOn_of_forall_not fun c member =>
          beq_false_of_ne (ne_of_mem_of_not_mem member (noFeed line List.mem_cons_self))
      rw [joinLines_cons, splitOn_append (p := (· == '\n')) rfl, oneLine, tail]
      rfl

theorem intercalate_append_empty (lines : List (List Char)) :
    List.intercalate ['\n'] (lines ++ [[]]) = joinLines lines := by
  induction lines with
  | nil => rfl
  | cons line rest ih =>
      rw [joinLines_cons, ← ih]
      cases rest with
      | nil => simp
      | cons next rest =>
          rw [List.cons_append, List.cons_append, List.intercalate_cons_cons, ← List.cons_append,
            List.append_assoc]
          rfl

/-- The lines of a text are trimmed one by one. -/
theorem toList_trimLineEnds {text : String} {lines : List (List Char)}
    (isText : text.toList = joinLines lines) (noFeed : ∀ line ∈ lines, '\n' ∉ line) :
    (trimLineEnds text).toList = joinLines (lines.map trimEndList) := by
  rw [trimLineEnds, String.toList_ofList, isText, splitOn_joinLines noFeed, List.map_append,
    ← intercalate_append_empty]
  rfl

end TypedClient.Text
