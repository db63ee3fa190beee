/-
# Reading again

What the reader takes of a text, it takes again wherever the text goes on in another way, as long as
it cannot go on inside the part that was read. So a part of a document keeps its meaning when the
lines around it change. No part has a carriage return in it.
-/

import TypedClient.Proofs.Toml.Reading

namespace TypedClient.Toml

variable {c delimiter : Char} {cs rest reversed piece : List Char} {text name before : String}
  {fuel depth : Nat} {comment : Bool} {key : Key} {path : List Key}

/-! ## Carriage returns -/

theorem noReturn_of_count_eq (whole : cs = piece ++ rest)
    (same : cs.count '\r' = rest.count '\r') : '\r' ∉ piece := by
  rw [whole, List.count_append] at same
  exact List.count_eq_zero.mp (by omega)

theorem count_return_dropWhile {p : Char → Bool} (stops : p '\r' = false) (cs : List Char) :
    (cs.dropWhile p).count '\r' = cs.count '\r' := by
  have none : (cs.takeWhile p).count '\r' = 0 := List.count_eq_zero.mpr fun isTaken =>
    Bool.false_ne_true (stops.symm.trans (List.all_eq_true.mp List.all_takeWhile _ isTaken))
  have parts := congrArg (List.count '\r') (List.takeWhile_append_dropWhile (p := p) (l := cs))
  rw [List.count_append, none, Nat.zero_add] at parts
  exact parts

theorem count_return_cons (noReturn : c ≠ '\r') (cs : List Char) :
    (c :: cs).count '\r' = cs.count '\r' :=
  List.count_cons_of_ne noReturn

theorem noReturn_of_mapM {digits : List Char} {values : List Nat}
    (read : digits.mapM Text.hexValue? = some values) : '\r' ∉ digits := by
  induction digits generalizing values with
  | nil => simp
  | cons digit digits ih =>
    rw [List.mapM_cons] at read
    obtain ⟨value, isValue, read⟩ := Option.bind_eq_some_iff.mp read
    obtain ⟨others, areOthers, -⟩ := Option.bind_eq_some_iff.mp read
    refine List.not_mem_cons_of_ne_of_not_mem ?_ (ih areOthers)
    rintro rfl
    cases isValue

theorem count_return_escapedChar? {meant : Char} (read : escapedChar? cs = some (meant, rest)) :
    rest.count '\r' = cs.count '\r' := by
  cases cs with
  | nil => cases read
  | cons first cs =>
    have noReturn : first ≠ '\r' := by
      rintro rfl
      cases read
    rw [count_return_cons noReturn]
    rw [escapedChar?] at read
    split at read
    · cases read
      rfl
    · rename_i width _ _
      obtain ⟨digits, areDigits, read⟩ := Option.bind_eq_some_iff.mp read
      split at read
      · cases read
      · obtain ⟨_, -, read⟩ := Option.bind_eq_some_iff.mp read
        cases read
        have none := List.count_eq_zero.mpr (noReturn_of_mapM areDigits)
        have parts := congrArg (List.count '\r') (List.take_append_drop width cs)
        rw [List.count_append, none, Nat.zero_add] at parts
        exact parts
    · cases read

theorem count_return_lineString? (isQuote : delimiter ≠ '\r')
    (read : lineString? delimiter fuel reversed cs = some (text, rest)) :
    rest.count '\r' = cs.count '\r' := by
  induction fuel generalizing reversed cs with
  | zero => cases read
  | succ fuel ih =>
    cases cs with
    | nil => cases read
    | cons c cs =>
      rw [lineString?] at read
      split at read
      · rename_i same
        cases read
        rw [count_return_cons (same ▸ isQuote)]
      · split at read
        · rename_i isEscape
          obtain ⟨-, rfl⟩ : delimiter = '"' ∧ c = '\\' := by simpa using isEscape
          obtain ⟨⟨meant, next⟩, escaped, readNext⟩ := Option.bind_eq_some_iff.mp read
          rw [count_return_cons (by decide), ih readNext, count_return_escapedChar? escaped]
        · split at read
          · rename_i printable
            rw [count_return_cons (noReturn_of_isPrintable printable), ih read]
          · cases read

theorem count_return_continued? (read : continued? cs = some rest) :
    rest.count '\r' = cs.count '\r' := by
  rw [continued?] at read
  split at read
  · rename_i next isEnd
    cases read
    rw [count_return_dropWhile (by decide), ← count_return_cons (c := '\n') (by decide), ← isEnd,
      count_return_dropWhile (by decide)]
  · cases read

theorem count_return_linesString? (isQuote : delimiter ≠ '\r')
    (read : linesString? delimiter fuel reversed cs = some (text, rest)) :
    rest.count '\r' = cs.count '\r' := by
  have inRun (run : Nat) (after : List Char) :
      (List.replicate run delimiter ++ after).count '\r' = after.count '\r' := by
    have none : (List.replicate run delimiter).count '\r' = 0 := List.count_eq_zero.mpr fun isIn =>
      isQuote (List.eq_of_mem_replicate isIn).symm
    rw [List.count_append, none, Nat.zero_add]
  induction fuel generalizing reversed cs with
  | zero => cases read
  | succ fuel ih =>
    obtain ⟨run, after, rfl, other⟩ := exists_run delimiter cs
    rw [inRun]
    match run with
    | 0 =>
      cases after with
      | nil => cases read
      | cons c after =>
        have notQuote : c ≠ delimiter := by simpa using other
        rw [List.replicate_zero, List.nil_append, linesString?, if_neg notQuote] at read
        split at read
        · rename_i isEscape
          obtain ⟨-, rfl⟩ : delimiter = '"' ∧ c = '\\' := by simpa using isEscape
          rw [count_return_cons (by decide)]
          split at read
          · rename_i next isEnd
            rw [ih read, count_return_continued? isEnd]
          · obtain ⟨⟨meant, next⟩, escaped, readNext⟩ := Option.bind_eq_some_iff.mp read
            rw [ih readNext, count_return_escapedChar? escaped]
        · split at read
          · rename_i printable
            have noReturn : c ≠ '\r' := by
              rintro rfl
              exact absurd printable (by decide)
            rw [count_return_cons noReturn, ih read]
          · cases read
    | run + 1 =>
      by_cases small : run < 2
      · rw [linesString?_run small other] at read
        exact ih read
      · obtain ⟨run, rfl⟩ : ∃ more, run = more + 2 := ⟨run - 2, by omega⟩
        rw [linesString?_end other] at read
        cases read
        exact inRun _ _

theorem count_return_string? (read : string? cs = some (text, rest)) :
    rest.count '\r' = cs.count '\r' := by
  have noReturn {c : Char} (isQuote : isQuoteChar c = true) : c ≠ '\r' := by
    rintro rfl
    cases isQuote
  cases cs with
  | nil => cases read
  | cons c cs =>
    cases isQuote : isQuoteChar c with
    | false =>
      rw [string?_of_noQuote isQuote] at read
      cases read
    | true =>
      have opens := isQuoteChar_iff.mp isQuote
      rw [count_return_cons (noReturn isQuote)]
      by_cases isTriple : ∃ more, cs = c :: c :: more
      · obtain ⟨body, rfl⟩ := isTriple
        rw [count_return_cons (noReturn isQuote), count_return_cons (noReturn isQuote)]
        by_cases feed : body.head? = some '\n'
        · obtain ⟨body, rfl⟩ := List.head?_eq_some_iff.mp feed
          have lines : string? (c :: c :: c :: '\n' :: body) = _ :=
            string?_lines opens (.inl rfl)
          rw [count_return_cons (by decide)]
          exact count_return_linesString? (noReturn isQuote) (lines.symm.trans read)
        · have lines : string? (c :: c :: c :: body) = _ := string?_lines opens (.inr ⟨rfl, feed⟩)
          exact count_return_linesString? (noReturn isQuote) (lines.symm.trans read)
      · rw [string?_line opens fun more same => isTriple ⟨more, same⟩] at read
        exact count_return_lineString? (noReturn isQuote) read

/-! ## Blank text and comments -/

/-- What was skipped in front of something visible is skipped in front of every other text. -/
theorem skipTrivia?_again (read : skipTrivia? comment cs = some rest) :
    (∀ c ∈ rest.head?, c ≠ '\n' ∧ isBlank c = false ∧ c ≠ '#') ∧
      ∃ trivia, cs = trivia ++ rest ∧ '\r' ∉ trivia ∧
        (rest ≠ [] → ∀ more, skipTrivia? comment (trivia ++ more) = skipTrivia? false more) := by
  induction cs generalizing comment with
  | nil =>
    cases read
    exact ⟨nofun, [], rfl, List.not_mem_nil, fun nonempty => absurd rfl nonempty⟩
  | cons c cs ih =>
    -- A character that is passed over is passed over again.
    have cons {next : Bool} (read : skipTrivia? next cs = some rest) (noReturn : c ≠ '\r')
        (passes : ∀ more, skipTrivia? comment (c :: more) = skipTrivia? next more) :
        (∀ c ∈ rest.head?, c ≠ '\n' ∧ isBlank c = false ∧ c ≠ '#') ∧
          ∃ trivia, c :: cs = trivia ++ rest ∧ '\r' ∉ trivia ∧
            (rest ≠ [] → ∀ more,
              skipTrivia? comment (trivia ++ more) = skipTrivia? false more) := by
      obtain ⟨isVisible, trivia, rfl, noReturns, again⟩ := ih read
      refine ⟨isVisible, c :: trivia, rfl,
        List.not_mem_cons_of_ne_of_not_mem noReturn.symm noReturns, fun visible more => ?_⟩
      rw [List.cons_append, passes, again visible more]
    rw [skipTrivia?] at read
    split at read
    · rename_i isFeed
      subst isFeed
      exact cons read (by decide) fun more => by rw [skipTrivia?, if_pos rfl]
    · rename_i noFeed
      split at read
      · rename_i inComment
        split at read
        · rename_i printable
          exact cons read (noReturn_of_isPrintable printable) fun more => by
            rw [skipTrivia?, if_neg noFeed, if_pos inComment, if_pos printable]
        · cases read
      · rename_i outside
        split at read
        · rename_i blank
          refine cons read ?_ fun more => by
            rw [skipTrivia?, if_neg noFeed, if_neg outside, if_pos blank]
          rintro rfl
          cases blank
        · rename_i visible
          split at read
          · rename_i isComment
            subst isComment
            exact cons read (by decide) fun more => by
              rw [skipTrivia?, if_neg noFeed, if_neg outside, if_neg visible, if_pos rfl]
          · rename_i noComment
            cases read
            refine ⟨fun d isHead => ?_, [], rfl, List.not_mem_nil, fun _ more => ?_⟩
            · cases isHead
              exact ⟨noFeed, Bool.eq_false_iff.mpr visible, noComment⟩
            · rw [Bool.eq_false_iff.mpr outside]
              rfl

/-- What may come behind a value: nothing that goes on in a word, a string or a time. -/
structure EndsValue (more : List Char) : Prop where
  stops : ∀ c ∈ more.head?, isWordChar c = false ∧ isQuoteChar c = false
  noTime : ∀ d rest, more = ' ' :: d :: rest → d.isDigit = false

theorem EndsValue.of_cons {more : List Char} (stops : isWordChar c = false ∧ isQuoteChar c = false)
    (noTime : c = ' ' → ∀ d ∈ more.head?, d.isDigit = false) : EndsValue (c :: more) where
  stops := by
    intro d isHead
    cases isHead
    exact stops
  noTime d rest same := by
    obtain ⟨rfl, rfl⟩ := List.cons.inj same
    exact noTime rfl d rfl

theorem stops_of_isBlank (blank : isBlank c = true) :
    isWordChar c = false ∧ isQuoteChar c = false := by
  have isBlank : c = ' ' ∨ c = '\t' := by simpa [Toml.isBlank] using blank
  rcases isBlank with rfl | rfl <;> decide

/-- Digits are seen. -/
theorem visible_of_isDigit (isDigit : c.isDigit = true) :
    c ≠ '\n' ∧ isBlank c = false ∧ c ≠ '#' ∧ isWordChar c = true := by
  have differs (sign : Char) (noDigit : sign.isDigit = false) : c ≠ sign := by
    rintro rfl
    exact Bool.false_ne_true (noDigit.symm.trans isDigit)
  refine ⟨differs _ rfl, ?_, differs _ rfl, ?_⟩
  · simp [isBlank, differs ' ' rfl, differs '\t' rfl]
  · simp [isWordChar, Char.isAlphanum, isDigit]

/-- A value ends in front of blank text and comments that go up to a sign. -/
theorem EndsValue.of_skipTrivia? (skipped : skipTrivia? false cs = some (c :: rest))
    (stops : isWordChar c = false ∧ isQuoteChar c = false) : EndsValue cs := by
  cases cs with
  | nil => cases skipped
  | cons d cs =>
    rw [skipTrivia?] at skipped
    split at skipped
    · rename_i isFeed
      subst isFeed
      exact .of_cons (by decide) fun isSpace => absurd isSpace (by decide)
    · rw [if_neg Bool.false_ne_true] at skipped
      split at skipped
      · rename_i blank
        refine .of_cons (stops_of_isBlank blank) fun _ e isHead => ?_
        obtain ⟨cs, rfl⟩ := List.head?_eq_some_iff.mp isHead
        by_contra isDigit
        obtain ⟨noFeed, visible, noComment, isWord⟩ :=
          visible_of_isDigit (Bool.not_eq_false _ ▸ isDigit)
        rw [skipTrivia?_visible noFeed visible noComment] at skipped
        cases skipped
        exact Bool.false_ne_true (stops.1.symm.trans isWord)
      · rename_i visible
        split at skipped
        · rename_i isComment
          subst isComment
          exact .of_cons (by decide) fun isSpace => absurd isSpace (by decide)
        · cases skipped
          refine .of_cons stops fun isSpace => ?_
          subst isSpace
          exact absurd rfl visible

/-! ## Ends of lines -/

theorem isLineEnd_of_lineEnd? {ending : String} {next : List Char}
    (read : lineEnd? cs = some (ending, next)) : IsLineEnd ending.toList := by
  have whole : cs.takeWhile isBlank ++ cs.dropWhile isBlank = cs := List.takeWhile_append_dropWhile
  have blank : ∀ c ∈ cs.takeWhile isBlank, isBlank c = true := fun c => blank_of_mem_takeWhile
  -- What is taken of the line ends where the rest begins.
  have isPiece {piece after : List Char} (isText : cs = piece ++ after) :
      (taken cs after).toList = piece := by
    rw [taken_of_eq isText, String.toList_ofList]
  rw [lineEnd?] at read
  by_cases isComment : (cs.dropWhile isBlank).head? = some '#'
  · obtain ⟨line, isLine⟩ := List.head?_eq_some_iff.mp isComment
    rw [if_pos isComment, isLine, List.dropWhile_cons_of_pos rfl] at read
    have isText : cs = (cs.takeWhile isBlank ++ '#' :: line.takeWhile isPrintable) ++
        line.dropWhile isPrintable := by
      rw [List.append_assoc, List.cons_append, List.takeWhile_append_dropWhile, ← isLine, whole]
    have isEnd : IsLineEnd (cs.takeWhile isBlank ++ '#' :: line.takeWhile isPrintable) :=
      .comment blank fun c isTaken => List.all_eq_true.mp List.all_takeWhile c isTaken
    rw [← isPiece isText] at isEnd
    generalize line.dropWhile isPrintable = after at read isEnd
    split at read <;> cases read <;> exact isEnd
  · have isEnd : IsLineEnd (cs.takeWhile isBlank) := .blank blank
    rw [← isPiece whole.symm] at isEnd
    rw [if_neg isComment] at read
    generalize cs.dropWhile isBlank = after at read isEnd
    split at read <;> cases read <;> exact isEnd

/-- A value ends in front of the end of its line. -/
theorem IsLineEnd.endsValue {ending : List Char} (isEnd : IsLineEnd ending) (next : List Char) :
    EndsValue (ending ++ '\n' :: next) := by
  have behind {blanks : List Char} (blank : ∀ c ∈ blanks, isBlank c = true) {c : Char}
      {more : List Char} (isSign : c = '#' ∨ c = '\n') : EndsValue (blanks ++ c :: more) := by
    have noDigit : isWordChar c = false ∧ isQuoteChar c = false ∧ c.isDigit = false ∧ c ≠ ' ' := by
      rcases isSign with rfl | rfl <;> decide
    obtain ⟨noWord, noQuote, noDigit, noSpace⟩ := noDigit
    cases blanks with
    | nil => exact .of_cons ⟨noWord, noQuote⟩ fun isSpace => absurd isSpace noSpace
    | cons b blanks =>
      obtain ⟨isBlank, others⟩ := List.forall_mem_cons.mp blank
      refine .of_cons (stops_of_isBlank isBlank) fun _ d isHead => ?_
      cases blanks with
      | nil =>
        cases isHead
        exact noDigit
      | cons d blanks =>
        cases isHead
        by_contra isDigit
        have visible := (visible_of_isDigit (Bool.not_eq_false _ ▸ isDigit)).2.1
        exact Bool.false_ne_true (visible.symm.trans (others d List.mem_cons_self))
  cases isEnd with
  | blank blank => exact behind blank (.inr rfl)
  | comment blank printable =>
    rw [List.append_assoc]
    exact behind blank (.inl rfl)

/-! ## Words -/

theorem takeWhile_takeWhile_append {p : Char → Bool} {more : List Char} (cs : List Char)
    (stops : ∀ c ∈ more.head?, p c = false) :
    (cs.takeWhile p ++ more).takeWhile p = cs.takeWhile p := by
  rw [List.takeWhile_append_of_pos (List.all_eq_true.mp List.all_takeWhile)]
  cases more with
  | nil => rw [List.takeWhile_nil, List.append_nil]
  | cons c more => rw [List.takeWhile_cons_of_neg (by simp [stops c rfl]), List.append_nil]

/-- A word is read again in front of what ends a value. -/
theorem word_again {written : List Char} (isWord : word cs = (written, rest)) :
    cs = written ++ rest ∧ '\r' ∉ written ∧ (∀ c ∈ written.head?, isWordChar c = true) ∧
      ∀ more, EndsValue more → word (written ++ more) = (written, more) := by
  have noReturn (cs : List Char) : '\r' ∉ cs.takeWhile isWordChar := fun isTaken =>
    absurd (List.all_eq_true.mp List.all_takeWhile _ isTaken) (by decide)
  have whole := List.takeWhile_append_dropWhile (p := isWordChar) (l := cs)
  -- What is no date, or has no time behind it, is the whole word.
  have alone (isFirst : (cs.takeWhile isWordChar, cs.dropWhile isWordChar) = (written, rest)) :
      cs = written ++ rest ∧ '\r' ∉ written ∧ (∀ c ∈ written.head?, isWordChar c = true) ∧
        ∀ more, EndsValue more → word (written ++ more) = (written, more) := by
    cases isFirst
    refine ⟨whole.symm, noReturn cs, fun c isHead => ?_, fun more ends => ?_⟩
    · exact List.all_eq_true.mp List.all_takeWhile c (List.mem_of_mem_head? isHead)
    have stops : ∀ c ∈ more.head?, isWordChar c = false := fun c isHead => (ends.stops c isHead).1
    rw [word, takeWhile_takeWhile_append cs stops, dropWhile_takeWhile_append cs stops]
    split
    · rename_i d later _
      rw [if_neg (by simp [ends.noTime d later rfl])]
    · rfl
  rw [word] at isWord
  split at isWord
  · rename_i d later isDate isRest
    split at isWord
    · rename_i isDigit
      cases isWord
      have isTaken : (d :: later).takeWhile isWordChar = d :: later.takeWhile isWordChar :=
        List.takeWhile_cons_of_pos (visible_of_isDigit isDigit).2.2.2
      refine ⟨?_, List.not_mem_append (noReturn cs)
        (List.not_mem_cons_of_ne_of_not_mem (by decide) (noReturn _)), fun c isHead => ?_,
        fun more ends => ?_⟩
      · rw [List.append_assoc, List.cons_append, List.takeWhile_append_dropWhile, ← isRest, whole]
      · have nonempty : cs.takeWhile isWordChar ≠ [] := by
          intro isNil
          rw [isNil] at isDate
          cases isDate
        rw [List.head?_append_of_ne_nil _ nonempty] at isHead
        exact List.all_eq_true.mp List.all_takeWhile c (List.mem_of_mem_head? isHead)
      · have stops : ∀ c ∈ more.head?, isWordChar c = false := fun c isHead =>
          (ends.stops c isHead).1
        have space {after : List Char} : ∀ c ∈ (' ' :: after).head?, isWordChar c = false := by
          intro c isHead
          cases isHead
          decide
        have goesOn := takeWhile_takeWhile_append (d :: later) stops
        have ends := dropWhile_takeWhile_append (d :: later) stops
        rw [List.append_assoc, List.cons_append, word, takeWhile_takeWhile_append cs space,
          dropWhile_takeWhile_append cs space, isDate]
        rw [isTaken, List.cons_append] at goesOn ends ⊢
        simp only [isDigit, if_true, goesOn, ends]
    · rename_i noDigit
      exact alone (by rw [isRest]; exact isWord)
  · exact alone isWord

/-! ## Keys -/

theorem isKeyText_of_keyName? (read : keyName? cs = some (name, rest)) :
    ∃ written, cs = written ++ rest ∧ IsKeyText written name := by
  have quoted {delimiter : Char} {cs : List Char} (isQuote : isQuoteChar delimiter = true)
      (read : lineString? delimiter (cs.length + 1) [] cs = some (name, rest))
      (isKey : ∀ cs, keyName? (delimiter :: cs) = lineString? delimiter (cs.length + 1) [] cs) :
      ∃ written, delimiter :: cs = written ++ rest ∧ IsKeyText written name := by
    have noReturn : delimiter ≠ '\r' := by
      rintro rfl
      cases isQuote
    obtain ⟨body, rfl, -, again⟩ := lineString?_consumed read
    have inBody : '\r' ∉ body ++ [delimiter] := by
      have whole : body ++ delimiter :: rest = body ++ [delimiter] ++ rest := by simp
      exact noReturn_of_count_eq whole (count_return_lineString? noReturn read).symm
    refine ⟨delimiter :: (body ++ [delimiter]), by simp, ⟨delimiter, _, rfl, .inr isQuote⟩,
      List.not_mem_cons_of_ne_of_not_mem noReturn.symm inBody, fun more _ => ?_⟩
    rw [List.cons_append, List.append_assoc, List.singleton_append, isKey]
    refine again _ more ?_
    rw [List.length_append]
    omega
  rw [keyName?.eq_def] at read
  split at read
  · exact quoted rfl read fun _ => rfl
  · exact quoted rfl read fun _ => rfl
  · dsimp only at read
    split at read
    · cases read
    · rename_i nonempty
      cases read
      have isBare : IsBare (String.ofList (cs.takeWhile isBareKeyChar)) := by
        refine ⟨?_, ?_⟩ <;> rw [String.toList_ofList]
        · simpa using nonempty
        · exact fun c isTaken => List.all_eq_true.mp List.all_takeWhile c isTaken
      refine ⟨_, ?_, isKeyText_of_isBare isBare⟩
      rw [String.toList_ofList, List.takeWhile_append_dropWhile]

/-- A key as it was read, with the blanks around it. -/
def Key.IsRead (key : Key) : Prop :=
  ∃ blanks written after : List Char, IsKeyText written key.name ∧
    (∀ c ∈ blanks, isBlank c = true) ∧ (∀ c ∈ after, isBlank c = true) ∧
    key.written = some (String.ofList written) ∧ key.leaf = {} ∧
    key.dotted = ⟨some (String.ofList blanks), some (String.ofList after)⟩

/-- A path is read again in front of a sign that ends it. -/
theorem keys?_again (read : keys? fuel cs = some (path, rest)) :
    (∀ key ∈ path, key.IsRead) ∧ ∃ piece, cs = piece ++ rest ∧ '\r' ∉ piece ∧
      ∀ fuel c more, piece.length < fuel → StopsKey c →
        keys? fuel (piece ++ c :: more) = some (path, c :: more) := by
  induction fuel generalizing cs path rest with
  | zero => cases read
  | succ fuel ih =>
    rw [keys?] at read
    obtain ⟨⟨name, left⟩, readName, read⟩ := Option.bind_eq_some_iff.mp read
    obtain ⟨written, isWritten, isText⟩ := isKeyText_of_keyName? readName
    have blankBefore : ∀ c ∈ cs.takeWhile isBlank, isBlank c = true := fun c =>
      blank_of_mem_takeWhile
    have blankAfter : ∀ c ∈ left.takeWhile isBlank, isBlank c = true := fun c =>
      blank_of_mem_takeWhile
    have whole : cs = cs.takeWhile isBlank ++
        (written ++ (left.takeWhile isBlank ++ left.dropWhile isBlank)) := by
      rw [List.takeWhile_append_dropWhile, ← isWritten, List.takeWhile_append_dropWhile]
    have noReturn : '\r' ∉ cs.takeWhile isBlank ++ (written ++ left.takeWhile isBlank) :=
      List.not_mem_append (isTrivia_of_blanks blankBefore).noReturn
        (List.not_mem_append isText.noReturn (isTrivia_of_blanks blankAfter).noReturn)
    have isRead : Key.IsRead { name, written := some (taken (cs.dropWhile isBlank) left)
                               dotted := ⟨some (taken cs (cs.dropWhile isBlank)),
                                 some (taken left (left.dropWhile isBlank))⟩ } := by
      refine ⟨_, written, _, isText, blankBefore, blankAfter, ?_, rfl, ?_⟩
      · rw [taken_of_eq isWritten]
      · rw [taken_dropWhile, taken_dropWhile]
    dsimp only at read
    rw [taken_of_eq isWritten, taken_dropWhile, taken_dropWhile] at isRead read
    split at read
    · rename_i next isNext
      obtain ⟨⟨others, rest⟩, readNext, read⟩ := Option.bind_eq_some_iff.mp read
      cases read
      obtain ⟨areRead, piece, rfl, noReturns, again⟩ := ih readNext
      refine ⟨List.forall_mem_cons.mpr ⟨isRead, areRead⟩,
        cs.takeWhile isBlank ++ (written ++ left.takeWhile isBlank) ++ '.' :: piece, ?_,
        List.not_mem_append noReturn
          (List.not_mem_cons_of_ne_of_not_mem (by decide) noReturns),
        fun fuel c more enough stops => ?_⟩
      · rw [isNext] at whole
        simpa only [List.append_assoc, List.cons_append] using whole
      · rw [List.length_append, List.length_cons] at enough
        obtain ⟨fuel, rfl⟩ := Nat.exists_eq_add_one_of_ne_zero (show fuel ≠ 0 by omega)
        simp only [List.append_assoc, List.cons_append]
        rw [isText.keys?_eq blankBefore blankAfter rfl rfl, again fuel c more (by omega) stops]
        rfl
    · cases read
      refine ⟨List.forall_mem_singleton.mpr isRead,
        cs.takeWhile isBlank ++ (written ++ left.takeWhile isBlank), ?_, noReturn,
        fun fuel c more enough stops => ?_⟩
      · simpa only [List.append_assoc] using whole
      · obtain ⟨fuel, rfl⟩ :=
          Nat.exists_eq_add_one_of_ne_zero (Nat.ne_of_gt (Nat.zero_lt_of_lt enough))
        simp only [List.append_assoc]
        rw [isText.keys?_eq blankBefore blankAfter stops.notBare stops.visible]
        exact if_neg stops.noPoint

/-- A key that can be read again wherever it is put. -/
structure Key.IsReadable (key : Key) : Prop where
  text : IsKeyText key.text.toList key.name
  before : ∀ before ∈ key.leaf.before, IsTrivia before.toList
  after : ∀ after ∈ key.leaf.after, ∀ c ∈ after.toList, isBlank c = true

/-- An earlier key of a path. -/
structure Key.IsStep (key : Key) : Prop where
  text : IsKeyText key.text.toList key.name
  leaf : key.leaf = {}

theorem Key.IsStep.isReadable (isStep : key.IsStep) : key.IsReadable where
  text := isStep.text
  before := by simp [isStep.leaf]
  after := by simp [isStep.leaf]

/-- A path is read again with what stands before it. Its last key has that, with the blanks around
the path. -/
theorem keyPath?_again (read : keyPath? before cs = some (path, key, rest)) :
    (∀ step ∈ path, step.IsStep) ∧
    (∃ blanks after : List Char, IsKeyText key.text.toList key.name ∧
      (∀ c ∈ blanks, isBlank c = true) ∧ (∀ c ∈ after, isBlank c = true) ∧
      key.leaf = ⟨some (before ++ String.ofList blanks), some (String.ofList after)⟩) ∧
    ∃ piece, cs = piece ++ rest ∧ '\r' ∉ piece ∧ ∀ c more, StopsKey c →
      keyPath? before (piece ++ c :: more) = some (path, key, c :: more) := by
  rw [keyPath?] at read
  obtain ⟨⟨keys, left⟩, readKeys, read⟩ := Option.bind_eq_some_iff.mp read
  obtain ⟨last, isLast, read⟩ := Option.bind_eq_some_iff.mp read
  obtain ⟨first, isFirst, read⟩ := Option.bind_eq_some_iff.mp read
  obtain ⟨cleared, isCleared, read⟩ := Option.bind_eq_some_iff.mp read
  cases read
  obtain ⟨areRead, piece, isPiece, noReturn, again⟩ := keys?_again readKeys
  have isText {key : Key} (isKey : key ∈ keys) : IsKeyText key.text.toList key.name := by
    obtain ⟨_, written, _, isText, -, -, isWritten, -⟩ := areRead key isKey
    rw [Key.text, isWritten, Option.getD_some, String.toList_ofList]
    exact isText
  refine ⟨fun step isStep => ?_, ?_, piece, isPiece, noReturn, fun c more stops => ?_⟩
  · obtain ⟨i, inRange, rfl⟩ := List.mem_mapIdx.mp (List.dropLast_subset _ isStep)
    obtain ⟨_, _, _, -, -, -, -, noLeaf, -⟩ := areRead keys[i] (List.getElem_mem inRange)
    have ofStep := isText (List.getElem_mem inRange)
    exact ⟨ofStep, noLeaf⟩
  · rw [List.getLast?_mapIdx, isLast, Option.map_some] at isCleared
    cases isCleared
    obtain ⟨blanks, _, _, -, blankBefore, -, -, -, isStart⟩ :=
      areRead first (List.mem_of_mem_head? isFirst)
    obtain ⟨_, _, after, -, -, blankAfter, -, -, isEnd⟩ :=
      areRead last (List.mem_of_getLast? isLast)
    have ofLast := isText (List.mem_of_getLast? isLast)
    refine ⟨blanks, after, ofLast, blankBefore, blankAfter, ?_⟩
    rw [isStart, isEnd]
    rfl
  · rw [keyPath?, again _ c more (by rw [List.length_append]; omega) stops]
    simp only [Option.bind_eq_bind, Option.bind_some, isLast, isFirst, isCleared]

/-! ## Values -/

/-- The text of a value, wherever the value ends. -/
structure IsValueAgain (depth : Nat) (piece : List Char) (item : Item) : Prop where
  nonempty : piece ≠ []
  noReturn : '\r' ∉ piece
  spelled : ∀ decor text data, item = .value decor text data →
    decor = {} ∧ text = String.ofList piece
  reads : ∀ fuel more, 2 * piece.length < fuel → EndsValue more →
    value? fuel depth (piece ++ more) = some (item, more)

/-- What reading says about the texts of values, of the items of an array and of the pairs in
braces: each is read again with any fuel that is enough for its length. -/
structure ReadsAgain (fuel : Nat) : Prop where
  value : ∀ {depth cs item rest}, value? fuel depth cs = some (item, rest) →
    ∃ piece, cs = piece ++ rest ∧ IsValueAgain depth piece item
  items : ∀ {depth cs items rest}, items? fuel depth cs = some (items, rest) →
    ∃ piece, cs = piece ++ rest ∧ '\r' ∉ piece ∧ ∀ fuel more, 2 * piece.length < fuel →
      items? fuel depth (piece ++ more) = some (items, more)
  pairs : ∀ {depth entries cs after rest}, pairs? fuel depth entries cs = some (after, rest) →
    ∃ piece, cs = piece ++ rest ∧ '\r' ∉ piece ∧ ∀ fuel more, 2 * piece.length < fuel →
      pairs? fuel depth entries (piece ++ more) = some (after, more)

theorem pairs?_of_end (isEnd : cs.dropWhile isBlank = '\x7d' :: rest) (fuel depth : Nat)
    (entries : Entries) : pairs? fuel depth entries cs = none := by
  cases fuel with
  | zero => rfl
  | succ fuel =>
    rw [pairs?, keyPath?, keys?, isEnd]
    rfl

/-- A word is read where no other value begins. -/
theorem value?_word (isWord : isWordChar c = true) (fuel depth : Nat) (cs : List Char) :
    value? (fuel + 1) depth (c :: cs) =
      (wordData? (word (c :: cs)).1).map fun data =>
        (.value {} (String.ofList (word (c :: cs)).1) data, (word (c :: cs)).2) := by
  have differs (sign : Char) (noWord : isWordChar sign = false) : c ≠ sign := by
    rintro rfl
    exact Bool.false_ne_true (noWord.symm.trans isWord)
  rw [value?.eq_def]
  dsimp only
  split
  · rename_i begins
    exact absurd (List.cons.inj begins).1 (differs _ rfl)
  · rename_i begins
    exact absurd (List.cons.inj begins).1 (differs _ rfl)
  · rename_i begins
    exact absurd (List.cons.inj begins).1 (differs _ rfl)
  · rename_i begins
    exact absurd (List.cons.inj begins).1 (differs _ rfl)
  · cases wordData? (word (c :: cs)).1 <;> rfl

/-- A string is read as a value wherever no quote follows it. -/
theorem value?_string (isQuote : isQuoteChar c = true)
    (isString : string? (c :: cs) = some (text, rest)) (fuel depth : Nat) :
    value? (fuel + 1) depth (c :: cs) =
      some (.value {} (taken (c :: cs) rest) (.string text), rest) := by
  rcases isQuoteChar_iff.mp isQuote with rfl | rfl
  all_goals
    rw [value?]
    simp [isString]

theorem isValueAgain_string {item : Item} (read : (string? cs).bind (fun result =>
      some (Item.value {} (taken cs result.2) (.string result.1), result.2)) = some (item, rest)) :
    ∃ piece, cs = piece ++ rest ∧ IsValueAgain depth piece item := by
  obtain ⟨⟨text, after⟩, isString, read⟩ := Option.bind_eq_some_iff.mp read
  cases read
  obtain ⟨c, literal, whole, isQuote, again⟩ := string?_consumed isString
  refine ⟨c :: literal, whole, List.cons_ne_nil _ _, ?_, fun decor text data same => ?_,
    fun fuel more enough ends => ?_⟩
  · exact noReturn_of_count_eq whole (count_return_string? isString).symm
  · cases same
    exact ⟨rfl, taken_of_eq whole⟩
  · obtain ⟨fuel, rfl⟩ := Nat.exists_eq_add_one_of_ne_zero (Nat.ne_of_gt (Nat.zero_lt_of_lt enough))
    have noQuote : NoQuoteNext more := fun c isHead => (ends.stops c isHead).2
    have isAgain := again more noQuote
    have piece := taken_append (c :: literal) more
    rw [List.cons_append] at isAgain piece ⊢
    rw [value?_string isQuote isAgain, piece, taken_of_eq whole]

theorem isValueAgain_word {written : List Char} {data : Json}
    (isWord : word cs = (written, rest)) (isData : wordData? written = some data) :
    ∃ piece, cs = piece ++ rest ∧
      IsValueAgain depth piece (.value {} (String.ofList written) data) := by
  obtain ⟨whole, noReturn, begins, again⟩ := word_again isWord
  have noData : wordData? [] = none := by decide
  cases written with
  | nil =>
    rw [noData] at isData
    cases isData
  | cons c later =>
    refine ⟨c :: later, whole, List.cons_ne_nil _ _, noReturn, fun decor text data same => ?_,
      fun fuel more enough ends => ?_⟩
    · cases same
      exact ⟨rfl, rfl⟩
    · obtain ⟨fuel, rfl⟩ :=
        Nat.exists_eq_add_one_of_ne_zero (Nat.ne_of_gt (Nat.zero_lt_of_lt enough))
      have isAgain := again more ends
      rw [List.cons_append] at isAgain ⊢
      rw [value?_word (begins c rfl), isAgain, isData]
      rfl

theorem ReadsAgain.value_succ (reads : ReadsAgain fuel) {item : Item}
    (read : value? (fuel + 1) depth cs = some (item, rest)) :
    ∃ piece, cs = piece ++ rest ∧ IsValueAgain depth piece item := by
  rw [value?.eq_def] at read
  dsimp only at read
  split at read
  · -- an array
    obtain ⟨⟨items, after⟩, readItems, read⟩ := Option.bind_eq_some_iff.mp read
    cases read
    obtain ⟨inner, rfl, noReturn, again⟩ := reads.items readItems
    refine ⟨'[' :: inner, rfl, List.cons_ne_nil _ _,
      List.not_mem_cons_of_ne_of_not_mem (by decide) noReturn, fun decor text data same => ?_,
      fun fuel more enough _ => ?_⟩
    · cases same
      exact ⟨rfl, taken_of_eq List.cons_append.symm⟩
    · rw [List.length_cons] at enough
      obtain ⟨fuel, rfl⟩ := Nat.exists_eq_add_one_of_ne_zero (show fuel ≠ 0 by omega)
      have piece := taken_append ('[' :: inner) more
      rw [List.cons_append] at piece ⊢
      rw [value?]
      simp only [again fuel more (by omega), piece, taken_of_eq List.cons_append.symm,
        Option.bind_eq_bind, Option.bind_some]
  · -- a table in braces
    rename_i inner depth
    split at read
    · rename_i isEnd
      cases read
      have blank : ∀ c ∈ inner.takeWhile isBlank, isBlank c = true :=
        fun c => blank_of_mem_takeWhile
      have whole : inner = inner.takeWhile isBlank ++ '\x7d' :: rest := by
        rw [← isEnd, List.takeWhile_append_dropWhile]
      refine ⟨'\x7b' :: (inner.takeWhile isBlank ++ ['\x7d']), ?_, List.cons_ne_nil _ _,
        List.not_mem_cons_of_ne_of_not_mem (by decide)
          (List.not_mem_append (isTrivia_of_blanks blank).noReturn (by decide)),
        fun decor text data same => ?_, fun fuel more enough _ => ?_⟩
      · rw [List.cons_append, List.append_assoc]
        exact congrArg _ whole
      · cases same
      · rw [List.length_cons] at enough
        obtain ⟨fuel, rfl⟩ := Nat.exists_eq_add_one_of_ne_zero (show fuel ≠ 0 by omega)
        have stops : ∀ c ∈ ('\x7d' :: more).head?, isBlank c = false := by
          intro c isHead
          cases isHead
          rfl
        rw [List.cons_append, List.append_assoc, List.singleton_append, value?,
          dropWhile_takeWhile_append inner stops, taken_append, ← taken_dropWhile, isEnd]
        rfl
    · rename_i noEnd
      obtain ⟨⟨entries, after⟩, readPairs, read⟩ := Option.bind_eq_some_iff.mp read
      cases read
      obtain ⟨pairs, rfl, noReturn, again⟩ := reads.pairs readPairs
      refine ⟨'\x7b' :: pairs, rfl, List.cons_ne_nil _ _,
        List.not_mem_cons_of_ne_of_not_mem (by decide) noReturn, fun decor text data same => ?_,
        fun fuel more enough _ => ?_⟩
      · cases same
      · rw [List.length_cons] at enough
        obtain ⟨fuel, rfl⟩ := Nat.exists_eq_add_one_of_ne_zero (show fuel ≠ 0 by omega)
        have readAgain := again fuel more (by omega)
        rw [List.cons_append, value?]
        split
        · rename_i isEnd
          rw [pairs?_of_end isEnd] at readAgain
          cases readAgain
        · rw [readAgain]
          rfl
  · exact isValueAgain_string read
  · exact isValueAgain_string read
  · obtain ⟨data, isData, read⟩ := Option.bind_eq_some_iff.mp read
    cases read
    exact isValueAgain_word rfl isData

/-- The next item of an array is read with what stands behind it. -/
theorem items?_item {start after : List Char} {item : Item}
    (skipped : skipTrivia? false cs = some start) (noEnd : start.head? ≠ some ']')
    (isItem : value? fuel depth start = some (item, after)) :
    items? (fuel + 1) depth cs = (skipTrivia? false after).bind fun
      | ',' :: rest => (items? fuel depth rest).bind fun read =>
        some (item.data :: read.1, read.2)
      | ']' :: rest => some ([item.data], rest)
      | _ => none := by
  rw [items?, skipped, Option.bind_eq_bind, Option.bind_some]
  split
  · exact absurd rfl noEnd
  · rw [isItem]
    rfl

theorem ReadsAgain.items_succ (reads : ReadsAgain fuel) {items : List Json}
    (read : items? (fuel + 1) depth cs = some (items, rest)) :
    ∃ piece, cs = piece ++ rest ∧ '\r' ∉ piece ∧ ∀ fuel more, 2 * piece.length < fuel →
      items? fuel depth (piece ++ more) = some (items, more) := by
  rw [items?] at read
  obtain ⟨start, skipped, read⟩ := Option.bind_eq_some_iff.mp read
  obtain ⟨visible, trivia, whole, noReturn, again⟩ := skipTrivia?_again skipped
  split at read
  · cases read
    refine ⟨trivia ++ [']'], by simpa using whole, List.not_mem_append noReturn (by decide),
      fun fuel more enough => ?_⟩
    obtain ⟨fuel, rfl⟩ := Nat.exists_eq_add_one_of_ne_zero (Nat.ne_of_gt (Nat.zero_lt_of_lt enough))
    rw [List.append_assoc, List.singleton_append, items?, again (List.cons_ne_nil _ _),
      skipTrivia?_visible (by decide) rfl (by decide)]
    rfl
  · rename_i noEnd
    obtain ⟨⟨item, after⟩, readItem, read⟩ := Option.bind_eq_some_iff.mp read
    obtain ⟨next, skippedNext, read⟩ := Option.bind_eq_some_iff.mp read
    obtain ⟨value, isStart, isValue⟩ := reads.value readItem
    obtain ⟨-, trail, isAfter, noReturns, againTrail⟩ := skipTrivia?_again skippedNext
    obtain ⟨c, cs, rfl⟩ := List.exists_cons_of_ne_nil isValue.nonempty
    obtain ⟨noFeed, visible, noComment⟩ := visible c (by rw [isStart]; rfl)
    rw [isStart, isAfter] at whole
    have again (more : List Char) : skipTrivia? false (trivia ++ (c :: cs ++ more)) =
        some (c :: cs ++ more) := by
      rw [again (by rw [isStart]; exact List.cons_ne_nil _ _)]
      exact skipTrivia?_visible noFeed visible noComment _
    -- The item is read again in front of a sign that ends it.
    have goesOn {sign : Char} {left : List Char} (isNext : next = sign :: left)
        (stops : isWordChar sign = false ∧ isQuoteChar sign = false)
        (isSign : sign ≠ '\n' ∧ isBlank sign = false ∧ sign ≠ '#') {fuel : Nat}
        (enough : 2 * (c :: cs).length < fuel) (more : List Char) :
        skipTrivia? false (trivia ++ (c :: cs ++ (trail ++ sign :: more))) =
            some (c :: cs ++ (trail ++ sign :: more)) ∧
          value? fuel depth (c :: cs ++ (trail ++ sign :: more)) =
            some (item, trail ++ sign :: more) ∧
          skipTrivia? false (trail ++ sign :: more) = some (sign :: more) := by
      have skippedTrail : skipTrivia? false (trail ++ sign :: more) = some (sign :: more) := by
        rw [againTrail (isNext ▸ List.cons_ne_nil _ _),
          skipTrivia?_visible isSign.1 isSign.2.1 isSign.2.2]
      exact ⟨again _, isValue.reads _ _ enough (.of_skipTrivia? skippedTrail stops), skippedTrail⟩
    have noEnd (more : List Char) : (c :: cs ++ more).head? ≠ some ']' := by
      intro isEnd
      cases isEnd
      exact noEnd _ isStart
    split at read
    · obtain ⟨⟨items, rest⟩, readItems, read⟩ := Option.bind_eq_some_iff.mp read
      cases read
      obtain ⟨others, rfl, noReturnOthers, againOthers⟩ := reads.items readItems
      refine ⟨trivia ++ (c :: cs ++ (trail ++ ',' :: others)), by simpa using whole,
        List.not_mem_append noReturn (List.not_mem_append isValue.noReturn
          (List.not_mem_append noReturns
            (List.not_mem_cons_of_ne_of_not_mem (by decide) noReturnOthers))),
        fun fuel more enough => ?_⟩
      simp only [List.length_append, List.length_cons] at enough
      obtain ⟨fuel, rfl⟩ := Nat.exists_eq_add_one_of_ne_zero (show fuel ≠ 0 by omega)
      obtain ⟨isStart, isItem, isNext⟩ := goesOn rfl (by decide) (by decide)
        (show 2 * (c :: cs).length < fuel by rw [List.length_cons]; omega) (others ++ more)
      simp only [List.append_assoc, List.cons_append] at isStart isItem isNext ⊢
      rw [items?_item isStart (noEnd _) isItem, isNext]
      simp only [Option.bind_some, againOthers fuel more (by omega)]
    · cases read
      refine ⟨trivia ++ (c :: cs ++ (trail ++ [']'])), by simpa using whole,
        List.not_mem_append noReturn (List.not_mem_append isValue.noReturn
          (List.not_mem_append noReturns (by decide))), fun fuel more enough => ?_⟩
      simp only [List.length_append, List.length_cons] at enough
      obtain ⟨fuel, rfl⟩ := Nat.exists_eq_add_one_of_ne_zero (show fuel ≠ 0 by omega)
      obtain ⟨isStart, isItem, isNext⟩ := goesOn rfl (by decide) (by decide)
        (show 2 * (c :: cs).length < fuel by rw [List.length_cons]; omega) more
      simp only [List.append_assoc, List.cons_append, List.nil_append] at isStart isItem isNext ⊢
      rw [items?_item isStart (noEnd _) isItem, isNext]
      rfl
    · cases read

/-- The next pair in braces is read, whether others follow it or the closing brace. -/
theorem pairs?_pair {keys value blanks after : List Char} {entries middle : Entries} {item : Item}
    (isPath : ∀ c more, StopsKey c →
      keyPath? "" (keys ++ c :: more) = some (path, key, c :: more))
    (blankBefore : ∀ c ∈ blanks, isBlank c = true) (blankAfter : ∀ c ∈ after, isBlank c = true)
    (visible : ∀ c ∈ value.head?, isBlank c = false) (isValue : IsValueAgain depth value item)
    (added : addPair? true path key
      (item.surround ⟨some (String.ofList blanks), some (String.ofList after)⟩) entries =
        some middle)
    (enough : 2 * value.length < fuel) (more : List Char) :
    pairs? (fuel + 1) depth entries (keys ++ '=' :: (blanks ++ (value ++ (after ++ ',' :: more)))) =
        pairs? fuel depth middle more ∧
      pairs? (fuel + 1) depth entries
          (keys ++ '=' :: (blanks ++ (value ++ (after ++ '\x7d' :: more)))) =
        some (middle, more) := by
  obtain ⟨c, cs, rfl⟩ := List.exists_cons_of_ne_nil isValue.nonempty
  have isStart (left : List Char) : (blanks ++ (c :: cs ++ left)).dropWhile isBlank =
      c :: cs ++ left := by
    rw [List.dropWhile_append_of_pos blankBefore, List.cons_append,
      List.dropWhile_cons_of_neg (by simp [visible c rfl])]
  have isNext (sign : Char) (isVisible : isBlank sign = false) :
      (after ++ sign :: more).dropWhile isBlank = sign :: more := by
    rw [List.dropWhile_append_of_pos blankAfter, List.dropWhile_cons_of_neg (by simp [isVisible])]
  have isItem (sign : Char) (stops : isWordChar sign = false ∧ isQuoteChar sign = false)
      (isSign : sign ≠ '\n' ∧ isBlank sign = false ∧ sign ≠ '#') :
      value? fuel depth (c :: cs ++ (after ++ sign :: more)) =
        some (item, after ++ sign :: more) := by
    have skipped : skipTrivia? false (after ++ sign :: more) = some (sign :: more) := by
      rw [(isTrivia_of_blanks blankAfter).skips,
        skipTrivia?_visible isSign.1 isSign.2.1 isSign.2.2]
    exact isValue.reads fuel _ enough (.of_skipTrivia? skipped stops)
  constructor
  · rw [pairs?, isPath '=' _ ⟨rfl, rfl, by decide⟩]
    simp only [Option.bind_eq_bind, Option.bind_some, isStart, isItem ',' (by decide) (by decide),
      isNext ',' rfl, taken_append, added]
  · rw [pairs?, isPath '=' _ ⟨rfl, rfl, by decide⟩]
    simp only [Option.bind_eq_bind, Option.bind_some, isStart,
      isItem '\x7d' (by decide) (by decide), isNext '\x7d' rfl, taken_append, added]

theorem ReadsAgain.pairs_succ (reads : ReadsAgain fuel) {entries after : Entries}
    (read : pairs? (fuel + 1) depth entries cs = some (after, rest)) :
    ∃ piece, cs = piece ++ rest ∧ '\r' ∉ piece ∧ ∀ fuel more, 2 * piece.length < fuel →
      pairs? fuel depth entries (piece ++ more) = some (after, more) := by
  rw [pairs?] at read
  obtain ⟨⟨path, key, left⟩, readPath, read⟩ := Option.bind_eq_some_iff.mp read
  obtain ⟨-, -, keys, isCs, noReturn, isPath⟩ := keyPath?_again readPath
  dsimp only at read
  split at read
  · rename_i line
    obtain ⟨⟨item, left⟩, readItem, read⟩ := Option.bind_eq_some_iff.mp read
    obtain ⟨middle, added, read⟩ := Option.bind_eq_some_iff.mp read
    obtain ⟨value, isStart, isValue⟩ := reads.value readItem
    rw [taken_dropWhile, taken_dropWhile] at added
    have blankBefore : ∀ c ∈ line.takeWhile isBlank, isBlank c = true := fun c =>
      blank_of_mem_takeWhile
    have blankAfter : ∀ c ∈ left.takeWhile isBlank, isBlank c = true := fun c =>
      blank_of_mem_takeWhile
    have visible : ∀ c ∈ value.head?, isBlank c = false := by
      have visible : ∀ c ∈ (line.dropWhile isBlank).head?, isBlank c = false :=
        head?_dropWhile_eq_false
      rwa [isStart, List.head?_append_of_ne_nil _ isValue.nonempty] at visible
    have whole : cs = keys ++ '=' :: (line.takeWhile isBlank ++ (value ++
        (left.takeWhile isBlank ++ left.dropWhile isBlank))) := by
      rw [List.takeWhile_append_dropWhile, ← isStart, List.takeWhile_append_dropWhile, isCs]
    have noReturns (others : List Char) (noReturnOthers : '\r' ∉ others) :
        '\r' ∉ keys ++ '=' :: (line.takeWhile isBlank ++ (value ++
          (left.takeWhile isBlank ++ others))) := by
      refine List.not_mem_append noReturn (List.not_mem_cons_of_ne_of_not_mem (by decide) ?_)
      exact List.not_mem_append (isTrivia_of_blanks blankBefore).noReturn
        (List.not_mem_append isValue.noReturn
          (List.not_mem_append (isTrivia_of_blanks blankAfter).noReturn noReturnOthers))
    split at read
    · rename_i next isNext
      obtain ⟨others, rfl, noReturnOthers, againOthers⟩ := reads.pairs read
      refine ⟨_, ?_, noReturns (',' :: others)
        (List.not_mem_cons_of_ne_of_not_mem (by decide) noReturnOthers), fun fuel more enough => ?_⟩
      · rw [isNext] at whole
        simpa using whole
      · simp only [List.length_append, List.length_cons] at enough
        obtain ⟨fuel, rfl⟩ := Nat.exists_eq_add_one_of_ne_zero (show fuel ≠ 0 by omega)
        simp only [List.append_assoc, List.cons_append]
        have goesOn := pairs?_pair isPath blankBefore blankAfter visible isValue added
          (show 2 * value.length < fuel by omega) (others ++ more)
        exact goesOn.1.trans (againOthers fuel more (by omega))
    · rename_i next isNext
      cases read
      refine ⟨_, ?_, noReturns ['\x7d'] (by decide), fun fuel more enough => ?_⟩
      · rw [isNext] at whole
        simpa using whole
      · simp only [List.length_append, List.length_cons] at enough
        obtain ⟨fuel, rfl⟩ := Nat.exists_eq_add_one_of_ne_zero (show fuel ≠ 0 by omega)
        simp only [List.append_assoc, List.cons_append, List.nil_append]
        have ends := pairs?_pair isPath blankBefore blankAfter visible isValue added
          (show 2 * value.length < fuel by omega) more
        exact ends.2
    · cases read
  · cases read

/-- Values, the items of arrays and the pairs in braces are read again, however deep they are
nested. -/
theorem readsAgain (fuel : Nat) : ReadsAgain fuel := by
  induction fuel with
  | zero =>
    constructor
    · intro depth cs item rest read
      cases read
    · intro depth cs items rest read
      cases read
    · intro depth entries cs after rest read
      cases read
  | succ fuel ih => exact ⟨ih.value_succ, ih.items_succ, ih.pairs_succ⟩

end TypedClient.Toml
