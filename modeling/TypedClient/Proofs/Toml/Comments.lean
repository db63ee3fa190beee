/-
# Comments

A comment begins at a number sign outside of strings and ends with its line. Whether a number sign
stands in a string depends on all the text before it, but not on what follows, so the comments of a
text are those of its parts wherever the parts end outside of strings and comments.
-/

import TypedClient.Proofs.Toml.Quotation

namespace TypedClient.Toml

variable {c delimiter : Char} {cs rest reversed : List Char} {text : String} {fuel : Nat}

/-! ## Strings and what follows them -/

theorem length_of_mapM_eq_some {α β : Type} {read : α → Option β} {list : List α}
    {values : List β} (done : list.mapM read = some values) : values.length = list.length := by
  induction list generalizing values with
  | nil =>
    cases done
    rfl
  | cons first list ih =>
    rw [List.mapM_cons] at done
    obtain ⟨value, -, done⟩ := Option.bind_eq_some_iff.mp done
    obtain ⟨rest, isRest, done⟩ := Option.bind_eq_some_iff.mp done
    rw [← Option.some.inj done, List.length_cons, List.length_cons, ih isRest]

/-- An escape is read without a look at what follows it, and begins with no blank. -/
theorem escapedChar?_consumed {meant : Char} (read : escapedChar? cs = some (meant, rest)) :
    ∃ first code, cs = first :: code ++ rest ∧ (first ≠ ' ' ∧ first ≠ '\t' ∧ first ≠ '\n') ∧
      ∀ more, escapedChar? (first :: code ++ more) = some (meant, more) := by
  cases cs with
  | nil => cases read
  | cons first cs =>
    have noBlank : first ≠ ' ' ∧ first ≠ '\t' ∧ first ≠ '\n' := by
      refine ⟨?_, ?_, ?_⟩
      all_goals
        rintro rfl
        cases read
    rw [escapedChar?] at read
    split at read
    · rename_i letter isLetter
      obtain ⟨rfl, rfl⟩ := Prod.mk.inj (Option.some.inj read)
      refine ⟨first, [], rfl, noBlank, fun more => ?_⟩
      simp [escapedChar?, isLetter]
    · rename_i width noLetter isWidth
      obtain ⟨digits, areDigits, read⟩ := Option.bind_eq_some_iff.mp read
      have whole : ¬ digits.length < width := by
        intro short
        rw [if_pos short] at read
        cases read
      rw [if_neg whole] at read
      obtain ⟨_, isMeant, read⟩ := Option.bind_eq_some_iff.mp read
      obtain ⟨rfl, rfl⟩ := Prod.mk.inj (Option.some.inj read)
      have length : (cs.take width).length = width := by
        rw [length_of_mapM_eq_some areDigits] at whole
        have short : (cs.take width).length ≤ width := List.length_take_le width cs
        omega
      refine ⟨first, cs.take width, by simp, noBlank, fun more => ?_⟩
      simp only [List.cons_append, escapedChar?, noLetter, isWidth, List.take_left' length,
        List.drop_left' length, areDigits, Option.bind_eq_bind, Option.bind_some, if_neg whole,
        isMeant]
    · cases read

/-- A string in one line ends at its closing quote. -/
theorem lineString?_consumed (read : lineString? delimiter fuel reversed cs = some (text, rest)) :
    ∃ body, cs = body ++ delimiter :: rest ∧ body.head? ≠ some delimiter ∧
      ∀ fuel more, body.length < fuel →
        lineString? delimiter fuel reversed (body ++ delimiter :: more) = some (text, more) := by
  induction fuel generalizing reversed cs with
  | zero => cases read
  | succ fuel ih =>
    cases cs with
    | nil => cases read
    | cons c cs =>
      rw [lineString?] at read
      by_cases isQuote : c = delimiter
      · rw [if_pos isQuote] at read
        obtain ⟨rfl, rfl⟩ := Prod.mk.inj (Option.some.inj read)
        subst isQuote
        refine ⟨[], rfl, by simp, fun fuel more enough => ?_⟩
        obtain ⟨fuel, rfl⟩ := Nat.exists_eq_add_one_of_ne_zero (Nat.ne_of_gt enough)
        exact lineString?_close c fuel reversed more
      · rw [if_neg isQuote] at read
        split at read
        · rename_i isEscape
          obtain ⟨rfl, rfl⟩ : delimiter = '"' ∧ c = '\\' := by simpa using isEscape
          obtain ⟨⟨meant, next⟩, escaped, readNext⟩ := Option.bind_eq_some_iff.mp read
          obtain ⟨first, code, rfl, -, back⟩ := escapedChar?_consumed escaped
          obtain ⟨body, rfl, -, again⟩ := ih readNext
          refine ⟨'\\' :: (first :: code ++ body), by simp, by simp, fun fuel more enough => ?_⟩
          simp only [List.length_cons, List.length_append] at enough
          obtain ⟨fuel, rfl⟩ := Nat.exists_eq_add_one_of_ne_zero (show fuel ≠ 0 by omega)
          rw [List.cons_append, List.append_assoc, lineString?_escape (back _)]
          exact again fuel more (by omega)
        · rename_i noEscape
          split at read
          · rename_i printable
            obtain ⟨body, rfl, -, again⟩ := ih read
            refine ⟨c :: body, rfl, by simpa using isQuote, fun fuel more enough => ?_⟩
            simp only [List.length_cons] at enough
            obtain ⟨fuel, rfl⟩ := Nat.exists_eq_add_one_of_ne_zero (show fuel ≠ 0 by omega)
            rw [List.cons_append, lineString?_plain isQuote (by simpa using noEscape) printable]
            exact again fuel more (by omega)
          · cases read

/-- A text is a run of quotes and what follows it. -/
theorem exists_run (delimiter : Char) (cs : List Char) :
    ∃ run after, cs = List.replicate run delimiter ++ after ∧ after.head? ≠ some delimiter := by
  induction cs with
  | nil => exact ⟨0, [], rfl, by simp⟩
  | cons c cs ih =>
    by_cases isQuote : c = delimiter
    · obtain ⟨run, after, rfl, other⟩ := ih
      exact ⟨run + 1, after, by rw [isQuote, List.replicate_succ, List.cons_append], other⟩
    · exact ⟨0, c :: cs, rfl, by simpa using isQuote⟩

/-- What was taken of a text is dropped in front of any other that begins where it stopped. -/
theorem dropWhile_takeWhile_append {p : Char → Bool} {more : List Char} (cs : List Char)
    (stops : ∀ c ∈ more.head?, p c = false) : (cs.takeWhile p ++ more).dropWhile p = more := by
  rw [List.dropWhile_append_of_pos (List.all_eq_true.mp List.all_takeWhile)]
  cases more with
  | nil => rfl
  | cons c more => rw [List.dropWhile_cons_of_neg (by simp [stops c rfl])]

theorem head?_dropWhile_eq_false {p : Char → Bool} :
    ∀ c ∈ (cs.dropWhile p).head?, p c = false := by
  intro c isHead
  have stops := List.head?_dropWhile_not p cs
  rw [Option.mem_def.mp isHead] at stops
  simpa using stops

/-- The end of a line in a string is passed over with the blanks around it. -/
theorem continued?_consumed (read : continued? cs = some rest) :
    ∃ code, cs = code ++ rest ∧
      ∀ more, more.head? = rest.head? → continued? (code ++ more) = some more := by
  rw [continued?] at read
  split at read
  · rename_i next isEnd
    cases read
    refine ⟨cs.takeWhile (fun c => c = ' ' || c = '\t') ++
      '\n' :: next.takeWhile (fun c => c = ' ' || c = '\t' || c = '\n'), ?_, fun more same => ?_⟩
    · rw [List.append_assoc, List.cons_append, List.takeWhile_append_dropWhile, ← isEnd,
        List.takeWhile_append_dropWhile]
    · let isSpace (c : Char) : Bool := c = ' ' || c = '\t' || c = '\n'
      have stops : ∀ c ∈ (next.dropWhile isSpace).head?, isSpace c = false :=
        head?_dropWhile_eq_false
      rw [← same] at stops
      rw [List.append_assoc, List.cons_append, continued?, dropWhile_takeWhile_append _ (by simp)]
      exact congrArg some (dropWhile_takeWhile_append next stops)
  · cases read

theorem head?_append_of_ne_nil {body : List Char} (nonempty : body ≠ []) (more after : List Char) :
    (body ++ more).head? = (body ++ after).head? := by
  cases body with
  | nil => exact absurd rfl nonempty
  | cons c body => rfl

/-- A string over several lines ends in front of the rest of a text, whatever the rest is but a
quote. -/
def EndsBefore (delimiter : Char) (text : String) (reversed cs rest : List Char) : Prop :=
  ∃ body, cs = body ++ rest ∧ body ≠ [] ∧
    ∀ fuel more, more.head? ≠ some delimiter → body.length ≤ fuel →
      linesString? delimiter fuel reversed (body ++ more) = some (text, more)

/-- A step of the reader looks no further than at the first character behind what it takes. -/
theorem EndsBefore.step {before after front : List Char}
    (ends : EndsBefore delimiter text after cs rest) (nonempty : front ≠ [])
    (takes : ∀ fuel more, more.head? = cs.head? →
      linesString? delimiter (fuel + 1) before (front ++ more) =
        linesString? delimiter fuel after more) :
    EndsBefore delimiter text before (front ++ cs) rest := by
  obtain ⟨body, rfl, nonemptyBody, again⟩ := ends
  refine ⟨front ++ body, (List.append_assoc ..).symm, by simp [nonempty],
    fun fuel more noQuote enough => ?_⟩
  have positive := List.length_pos_iff.mpr nonempty
  rw [List.length_append] at enough
  obtain ⟨fuel, rfl⟩ := Nat.exists_eq_add_one_of_ne_zero (show fuel ≠ 0 by omega)
  rw [List.append_assoc, takes fuel _ (head?_append_of_ne_nil nonemptyBody more rest)]
  exact again fuel more noQuote (by omega)

/-- A string over several lines ends at its closing quotes. -/
theorem linesString?_consumed (read : linesString? delimiter fuel reversed cs = some (text, rest)) :
    EndsBefore delimiter text reversed cs rest := by
  induction fuel generalizing reversed cs with
  | zero => cases read
  | succ fuel ih =>
    obtain ⟨run, after, rfl, other⟩ := exists_run delimiter cs
    match run with
    | 0 =>
      cases after with
      | nil => cases read
      | cons c after =>
        have notQuote : c ≠ delimiter := by simpa using other
        rw [List.replicate_zero, List.nil_append, linesString?, if_neg notQuote] at read
        rw [List.replicate_zero, List.nil_append]
        split at read
        · rename_i isEscape
          obtain ⟨rfl, rfl⟩ : delimiter = '"' ∧ c = '\\' := by simpa using isEscape
          split at read
          · rename_i next isEnd
            obtain ⟨code, rfl, goesOn⟩ := continued?_consumed isEnd
            refine (ih read).step (List.cons_ne_nil '\\' code) fun fuel more same => ?_
            rw [List.cons_append, linesString?, if_neg notQuote, if_pos isEscape, goesOn more same]
          · obtain ⟨⟨meant, next⟩, escaped, readNext⟩ := Option.bind_eq_some_iff.mp read
            obtain ⟨first, code, rfl, noBlank, back⟩ := escapedChar?_consumed escaped
            refine (ih readNext).step (List.cons_ne_nil '\\' (first :: code))
              fun fuel more _ => ?_
            exact linesString?_escape noBlank (back more) fuel reversed
        · rename_i noEscape
          split at read
          · rename_i printable
            refine (ih read).step (List.cons_ne_nil c []) fun fuel more _ => ?_
            exact linesString?_plain notQuote (by simpa using noEscape) (by simpa using printable)
              fuel reversed more
          · cases read
    | run + 1 =>
      by_cases small : run < 2
      · rw [linesString?_run small other] at read
        refine (ih read).step (by simp) fun fuel more same => ?_
        exact linesString?_run small (same ▸ other) fuel reversed
      · obtain ⟨run, rfl⟩ : ∃ more, run = more + 2 := ⟨run - 2, by omega⟩
        rw [linesString?_end other] at read
        obtain ⟨rfl, rfl⟩ := Prod.mk.inj (Option.some.inj read)
        have split : run + 2 + 1 = (min run 2 + 3) + (run - min run 2) := by omega
        refine ⟨List.replicate (min run 2 + 3) delimiter, ?_, by simp [List.replicate_succ],
          fun fuel more noQuote enough => ?_⟩
        · rw [← List.append_assoc, List.replicate_append_replicate, ← split]
        · rw [List.length_replicate] at enough
          obtain ⟨fuel, rfl⟩ := Nat.exists_eq_add_one_of_ne_zero (show fuel ≠ 0 by omega)
          exact linesString?_close (Nat.min_le_right run 2) noQuote fuel reversed

/-- Whether a character opens a string. -/
def isQuoteChar (c : Char) : Bool := c = '"' || c = '\''

/-- What follows a string, so that it is not taken for more of its quotes. -/
def NoQuoteNext (rest : List Char) : Prop := ∀ c ∈ rest.head?, isQuoteChar c = false

theorem noQuoteNext_nil : NoQuoteNext [] := fun _ isHead => absurd isHead (by simp)

theorem noQuoteNext_cons (noQuote : isQuoteChar c = false) (more : List Char) :
    NoQuoteNext (c :: more) := by
  intro d isHead
  cases isHead
  exact noQuote

theorem NoQuoteNext.head?_ne (noQuote : NoQuoteNext rest) (isQuote : isQuoteChar delimiter = true) :
    rest.head? ≠ some delimiter := by
  intro isHead
  rw [noQuote delimiter isHead] at isQuote
  cases isQuote

theorem isQuoteChar_iff : isQuoteChar c = true ↔ c = '"' ∨ c = '\'' := by
  simp [isQuoteChar]

theorem string?_of_noQuote (noQuote : isQuoteChar c = false) (cs : List Char) :
    string? (c :: cs) = none := by
  have noString : ¬ (c = '"' ∨ c = '\'') := fun isQuote =>
    Bool.false_ne_true (noQuote.symm.trans (isQuoteChar_iff.mpr isQuote))
  match cs with
  | [] | [_] | _ :: _ :: _ => simp [string?, noString]

theorem string?_line_consumed (isQuote : isQuoteChar c = true)
    (read : lineString? c (cs.length + 1) [] cs = some (text, rest)) :
    ∃ literal, cs = literal ++ rest ∧
      ∀ more, NoQuoteNext more → string? (c :: literal ++ more) = some (text, more) := by
  obtain ⟨body, rfl, first, again⟩ := lineString?_consumed read
  refine ⟨body ++ [c], by simp, fun more noQuote => ?_⟩
  have single (next : List Char) : body ++ c :: more ≠ c :: c :: next :=
    ne_two_of_head? first (noQuote.head?_ne isQuote)
  rw [List.cons_append, List.append_assoc, List.singleton_append,
    string?_line (isQuoteChar_iff.mp isQuote) single]
  refine again _ more ?_
  rw [List.length_append]
  omega

/-- A string ends at its closing quotes, wherever the text goes on. -/
theorem string?_consumed (read : string? cs = some (text, rest)) :
    ∃ c literal, cs = c :: literal ++ rest ∧ isQuoteChar c = true ∧
      ∀ more, NoQuoteNext more → string? (c :: literal ++ more) = some (text, more) := by
  cases cs with
  | nil => cases read
  | cons c cs =>
    cases isQuote : isQuoteChar c with
    | false =>
      rw [string?_of_noQuote isQuote] at read
      cases read
    | true =>
      have opens := isQuoteChar_iff.mp isQuote
      by_cases isTriple : ∃ more, cs = c :: c :: more
      · obtain ⟨cs, rfl⟩ := isTriple
        -- A line feed after the opening quotes is dropped in both texts or in neither.
        obtain ⟨start, body, rfl, isStart⟩ : ∃ start body, cs = start ++ body ∧
            (start = ['\n'] ∨ start = [] ∧ body.head? ≠ some '\n') := by
          cases cs with
          | nil => exact ⟨[], [], rfl, .inr ⟨rfl, by simp⟩⟩
          | cons d cs =>
            by_cases isFeed : d = '\n'
            · exact ⟨['\n'], cs, by rw [isFeed]; rfl, .inl rfl⟩
            · exact ⟨[], d :: cs, rfl, .inr ⟨rfl, by simpa using isFeed⟩⟩
        have readBody : linesString? c (body.length + 1) [] body = some (text, rest) :=
          (string?_lines opens isStart).symm.trans read
        obtain ⟨body, rfl, nonempty, again⟩ := linesString?_consumed readBody
        refine ⟨c, c :: c :: (start ++ body), by simp, isQuote, fun more noQuote => ?_⟩
        have isStart : start = ['\n'] ∨ start = [] ∧ (body ++ more).head? ≠ some '\n' := by
          rwa [head?_append_of_ne_nil nonempty more rest]
        have readMore := string?_lines opens isStart
        rw [again _ more (noQuote.head?_ne isQuote) (by simp; omega)] at readMore
        simpa [List.replicate] using readMore
      · rw [string?_line opens fun more same => isTriple ⟨more, same⟩] at read
        obtain ⟨literal, rfl, again⟩ := string?_line_consumed isQuote read
        exact ⟨c, literal, rfl, isQuote, again⟩

/-! ## Comments of a text -/

/-- The comments of a text after some characters that belong to what was read before. -/
def commentsFrom : (skipped : Nat) → List Char → List String
  | _, [] => []
  | skipped + 1, _ :: rest => commentsFrom skipped rest
  | 0, c :: rest =>
    if c = '#' then
      let comment := rest.takeWhile (· ≠ '\n')
      String.ofList (c :: comment) :: commentsFrom comment.length rest
    else
      match string? (c :: rest) with
      | some (_, after) => commentsFrom (rest.length - after.length) rest
      | none => commentsFrom 0 rest

/-- The comments of a text: from each number sign outside of strings to the end of its line. -/
def comments (cs : List Char) : List String := commentsFrom 0 cs

example : comments "key = '# no' # one\n# two".toList = ["# one", "# two"] := by decide

theorem commentsFrom_append (front rest : List Char) :
    commentsFrom front.length (front ++ rest) = comments rest := by
  induction front with
  | nil => rfl
  | cons c front ih => rw [List.length_cons, List.cons_append, commentsFrom, ih]

theorem comments_nil : comments [] = [] := rfl

/-- A character that is no sign of a comment or a string is passed over. -/
theorem comments_cons (noComment : c ≠ '#') (noQuote : isQuoteChar c = false) (rest : List Char) :
    comments (c :: rest) = comments rest := by
  rw [comments, commentsFrom, if_neg noComment, string?_of_noQuote noQuote]
  rfl

/-- A comment ends with its line. -/
theorem comments_comment {comment : List Char} (oneLine : '\n' ∉ comment)
    (isEnd : ∀ c ∈ rest.head?, c = '\n') :
    comments ('#' :: (comment ++ rest)) = String.ofList ('#' :: comment) :: comments rest := by
  have taken : (comment ++ rest).takeWhile (· ≠ '\n') = comment := by
    have noFeed : ∀ c ∈ comment, c ≠ '\n' := fun c isIn => ne_of_mem_of_not_mem isIn oneLine
    rw [List.takeWhile_append_of_pos (by simpa using noFeed)]
    cases rest with
    | nil => simp
    | cons d rest => simp [isEnd d rfl]
  rw [comments, commentsFrom, if_pos rfl]
  dsimp only
  rw [taken, commentsFrom_append]

/-- A string has no comments in it. -/
theorem comments_string {literal : List Char} (isQuote : isQuoteChar c = true)
    (isString : string? (c :: literal ++ rest) = some (text, rest)) :
    comments (c :: literal ++ rest) = comments rest := by
  have noComment : c ≠ '#' := by
    rintro rfl
    cases isQuote
  have length : (literal ++ rest).length - rest.length = literal.length := by simp
  rw [List.cons_append] at isString ⊢
  rw [comments, commentsFrom, if_neg noComment, isString]
  dsimp only
  rw [length, commentsFrom_append]

/-- A comment of a text is written in it. -/
theorem isInfix_of_mem_commentsFrom {skipped : Nat} {comment : String}
    (isComment : comment ∈ commentsFrom skipped cs) : comment.toList <:+: cs := by
  induction cs generalizing skipped with
  | nil => simp [commentsFrom] at isComment
  | cons c cs ih =>
    have later {skipped : Nat} (isComment : comment ∈ commentsFrom skipped cs) :
        comment.toList <:+: c :: cs :=
      (ih isComment).trans (List.suffix_cons c cs).isInfix
    cases skipped with
    | succ skipped => exact later isComment
    | zero =>
      rw [commentsFrom] at isComment
      split at isComment
      · rcases List.mem_cons.mp isComment with rfl | isLater
        · rw [String.toList_ofList]
          exact (List.cons_prefix_cons.mpr ⟨rfl, List.takeWhile_prefix _⟩).isInfix
        · exact later isLater
      · split at isComment
        · exact later isComment
        · exact later isComment

/-- A text without comments that ends outside of strings. -/
def IsSilent (piece : List Char) : Prop :=
  ∀ more, NoQuoteNext more → comments (piece ++ more) = comments more

theorem isSilent_string {literal : List Char} (isQuote : isQuoteChar c = true)
    (isString : ∀ more, NoQuoteNext more → string? (c :: literal ++ more) = some (text, more)) :
    IsSilent (c :: literal) := fun more noQuote =>
  comments_string isQuote (isString more noQuote)

theorem comments_append_of_forall {front : List Char}
    (plain : ∀ c ∈ front, c ≠ '#' ∧ isQuoteChar c = false) (more : List Char) :
    comments (front ++ more) = comments more := by
  induction front with
  | nil => rfl
  | cons c front ih =>
    obtain ⟨⟨noComment, noQuote⟩, plainFront⟩ := List.forall_mem_cons.mp plain
    rw [List.cons_append, comments_cons noComment noQuote, ih plainFront]

end TypedClient.Toml
