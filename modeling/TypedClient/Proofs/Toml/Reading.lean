/-
# Comments are read

Reading a text takes its comments into the fragments of the document, each once. What surrounds a
part of a line is blank but for the end of the line, so comments are found before a statement, at
the end of its line and inside of its value.
-/

import TypedClient.Proofs.Toml.Building
import TypedClient.Proofs.Toml.Comments

namespace TypedClient.Toml

variable {c : Char} {cs front piece rest : List Char} {name before : String} {key : Key}
  {path : List Key} {fuel depth : Nat}

/-! ## Blanks -/

theorem plain_of_isBlank (blank : isBlank c = true) : c ≠ '#' ∧ isQuoteChar c = false := by
  have isBlank : c = ' ' ∨ c = '\t' := by simpa [Toml.isBlank] using blank
  rcases isBlank with rfl | rfl <;> decide

theorem comments_blanks (cs rest : List Char) :
    comments (cs.takeWhile isBlank ++ rest) = comments rest :=
  comments_append_of_forall
    (fun c isTaken => plain_of_isBlank (List.all_eq_true.mp List.all_takeWhile c isTaken)) rest

theorem comments_takeWhile_isBlank (cs : List Char) : comments (cs.takeWhile isBlank) = [] := by
  have alone := comments_blanks cs []
  rwa [List.append_nil] at alone

theorem noQuoteNext_blanks (cs : List Char) {more : List Char} (noQuote : NoQuoteNext more) :
    NoQuoteNext (cs.takeWhile isBlank ++ more) := by
  cases taken : cs.takeWhile isBlank with
  | nil => exact noQuote
  | cons c blanks =>
    have isTaken : c ∈ cs.takeWhile isBlank := by rw [taken]; exact List.mem_cons_self
    intro d isHead
    cases isHead
    exact (plain_of_isBlank (List.all_eq_true.mp List.all_takeWhile c isTaken)).2

theorem taken_dropWhile (p : Char → Bool) (cs : List Char) :
    taken cs (cs.dropWhile p) = String.ofList (cs.takeWhile p) := by
  have whole := taken_append (cs.takeWhile p) (cs.dropWhile p)
  rwa [List.takeWhile_append_dropWhile] at whole

/-! ## Keys -/

/-- The name of a key has no comments in it. -/
theorem keyName?_consumed (read : keyName? cs = some (name, rest)) :
    ∃ piece, cs = piece ++ rest ∧ IsSilent piece := by
  have quoted (delimiter : Char) (isQuote : isQuoteChar delimiter = true) {cs : List Char}
      (read : lineString? delimiter (cs.length + 1) [] cs = some (name, rest)) :
      ∃ piece, delimiter :: cs = piece ++ rest ∧ IsSilent piece := by
    obtain ⟨literal, rfl, isString⟩ := string?_line_consumed isQuote read
    exact ⟨delimiter :: literal, rfl, isSilent_string isQuote isString⟩
  rw [keyName?.eq_def] at read
  split at read
  · exact quoted '"' rfl read
  · exact quoted '\'' rfl read
  · dsimp only at read
    split at read
    · cases read
    · cases read
      refine ⟨cs.takeWhile isBareKeyChar, List.takeWhile_append_dropWhile.symm, fun more _ =>
        comments_append_of_forall (fun c isTaken => ?_) more⟩
      have bare := List.all_eq_true.mp List.all_takeWhile c isTaken
      refine ⟨ne_of_isBareKeyChar bare '#' rfl, ?_⟩
      simp [isQuoteChar, ne_of_isBareKeyChar bare '"' rfl, ne_of_isBareKeyChar bare '\'' rfl]

/-- What surrounds a part is blank. -/
def Decor.IsBlank (decor : Decor) : Prop :=
  ∃ before after : List Char, decor =
    ⟨some (String.ofList (before.takeWhile isBlank)),
      some (String.ofList (after.takeWhile isBlank))⟩

theorem IsSilent.between_blanks (silent : IsSilent piece) (cs after : List Char) {more : List Char}
    (noQuote : NoQuoteNext more) :
    comments (cs.takeWhile isBlank ++ (piece ++ (after.takeWhile isBlank ++ more))) =
      comments more := by
  rw [comments_blanks, silent _ (noQuoteNext_blanks after noQuote), comments_blanks]

/-- Keys have no comments in them, and what surrounds each is blank. -/
theorem keys?_consumed (read : keys? fuel cs = some (path, rest)) :
    (∃ piece, cs = piece ++ rest ∧ IsSilent piece) ∧ ∀ key ∈ path, key.dotted.IsBlank := by
  induction fuel generalizing cs path rest with
  | zero => cases read
  | succ fuel ih =>
    rw [keys?] at read
    obtain ⟨⟨name, after⟩, readName, read⟩ := Option.bind_eq_some_iff.mp read
    obtain ⟨piece, isPiece, silent⟩ := keyName?_consumed readName
    have whole : cs = cs.takeWhile isBlank ++
        (piece ++ (after.takeWhile isBlank ++ after.dropWhile isBlank)) := by
      rw [List.takeWhile_append_dropWhile, ← isPiece, List.takeWhile_append_dropWhile]
    have blank : Decor.IsBlank ⟨some (taken cs (cs.dropWhile isBlank)),
        some (taken after (after.dropWhile isBlank))⟩ :=
      ⟨cs, after, by rw [taken_dropWhile, taken_dropWhile]⟩
    dsimp only at read
    split at read
    · rename_i next isNext
      obtain ⟨⟨path, rest⟩, readNext, read⟩ := Option.bind_eq_some_iff.mp read
      cases read
      obtain ⟨⟨others, rfl, silentOthers⟩, areBlank⟩ := ih readNext
      refine ⟨⟨cs.takeWhile isBlank ++ (piece ++ (after.takeWhile isBlank ++ '.' :: others)), ?_,
        fun more noQuote => ?_⟩, List.forall_mem_cons.mpr ⟨blank, areBlank⟩⟩
      · rw [isNext] at whole
        simpa only [List.append_assoc, List.cons_append] using whole
      · have point : NoQuoteNext ('.' :: (others ++ more)) := noQuoteNext_cons rfl _
        simp only [List.append_assoc, List.cons_append]
        rw [silent.between_blanks cs after point, comments_cons (by decide) rfl,
          silentOthers more noQuote]
    · cases read
      refine ⟨⟨cs.takeWhile isBlank ++ (piece ++ after.takeWhile isBlank), ?_,
        fun more noQuote => ?_⟩, List.forall_mem_singleton.mpr blank⟩
      · simpa only [List.append_assoc] using whole
      · simp only [List.append_assoc]
        exact silent.between_blanks cs after noQuote

/-- A path has no comments in it. Its last key gets what stands before the path, and blanks. -/
theorem keyPath?_consumed (read : keyPath? before cs = some (path, key, rest)) :
    (∃ piece, cs = piece ++ rest ∧ IsSilent piece) ∧
      ∃ start finish : List Char, key.leaf =
        ⟨some (before ++ String.ofList (start.takeWhile isBlank)),
          some (String.ofList (finish.takeWhile isBlank))⟩ := by
  rw [keyPath?] at read
  obtain ⟨⟨keys, after⟩, readKeys, read⟩ := Option.bind_eq_some_iff.mp read
  obtain ⟨last, isLast, read⟩ := Option.bind_eq_some_iff.mp read
  obtain ⟨first, isFirst, read⟩ := Option.bind_eq_some_iff.mp read
  obtain ⟨leaf, -, read⟩ := Option.bind_eq_some_iff.mp read
  cases read
  obtain ⟨isPiece, areBlank⟩ := keys?_consumed readKeys
  obtain ⟨start, _, isStart⟩ := areBlank first (List.mem_of_mem_head? isFirst)
  obtain ⟨_, finish, isFinish⟩ := areBlank last (List.mem_of_getLast? isLast)
  refine ⟨isPiece, start, finish, ?_⟩
  rw [isStart, isFinish]
  rfl

/-! ## Blank text and comments -/

theorem ne_feed_of_isPrintable (printable : isPrintable c = true) : c ≠ '\n' := by
  rintro rfl
  cases printable

/-- What is skipped in front of a text: it ends outside of comments if the text goes on. -/
def IsSkipped (cs rest : List Char) : Prop :=
  ∃ trivia, cs = trivia ++ rest ∧ (∀ more, NoQuoteNext more → NoQuoteNext (trivia ++ more)) ∧
    (rest ≠ [] → ∀ more, comments (trivia ++ more) = comments trivia ++ comments more)

/-- What is skipped after a part of a comment. -/
def IsSkippedInside (cs rest : List Char) : Prop :=
  ∃ trivia, cs = trivia ++ rest ∧ (rest ≠ [] → ∀ comment more, '\n' ∉ comment →
    comments ('#' :: (comment ++ (trivia ++ more))) =
      comments ('#' :: (comment ++ trivia)) ++ comments more)

/-- A character that is passed over changes nothing. -/
theorem IsSkipped.cons (skipped : IsSkipped cs rest) (noComment : c ≠ '#')
    (noQuote : isQuoteChar c = false) : IsSkipped (c :: cs) rest := by
  obtain ⟨trivia, rfl, -, splits⟩ := skipped
  refine ⟨c :: trivia, rfl, fun more _ => noQuoteNext_cons noQuote _, fun visible more => ?_⟩
  rw [List.cons_append, comments_cons noComment noQuote, comments_cons noComment noQuote,
    splits visible more]

/-- A comment begins at its sign. -/
theorem IsSkippedInside.start (skipped : IsSkippedInside cs rest) : IsSkipped ('#' :: cs) rest := by
  obtain ⟨trivia, rfl, splits⟩ := skipped
  exact ⟨'#' :: trivia, rfl, fun more _ => noQuoteNext_cons rfl _,
    fun visible more => splits visible [] more List.not_mem_nil⟩

/-- A comment ends with its line. -/
theorem IsSkipped.endLine (skipped : IsSkipped cs rest) : IsSkippedInside ('\n' :: cs) rest := by
  obtain ⟨trivia, rfl, -, splits⟩ := skipped
  refine ⟨'\n' :: trivia, rfl, fun visible comment more oneLine => ?_⟩
  have isEnd (after : List Char) : comments ('#' :: (comment ++ '\n' :: after)) =
      String.ofList ('#' :: comment) :: comments after := by
    have isFeed : ∀ d ∈ ('\n' :: after).head?, d = '\n' := fun d isHead =>
      (Option.some.inj isHead).symm
    rw [comments_comment oneLine isFeed, comments_cons (by decide) rfl]
  rw [List.cons_append, isEnd, isEnd, splits visible more, List.cons_append]

/-- A comment goes on in its line. -/
theorem IsSkippedInside.cons (skipped : IsSkippedInside cs rest) (noFeed : c ≠ '\n') :
    IsSkippedInside (c :: cs) rest := by
  obtain ⟨trivia, rfl, splits⟩ := skipped
  refine ⟨c :: trivia, rfl, fun visible comment more oneLine => ?_⟩
  have longer := splits visible (comment ++ [c]) more (by simp [oneLine, Ne.symm noFeed])
  simpa using longer

/-- The blank text in front of something visible ends outside of comments, also where skipping
begins inside of one. -/
theorem isSkipped_of_skipTrivia? (cs : List Char) :
    (∀ rest, skipTrivia? false cs = some rest → IsSkipped cs rest) ∧
      ∀ rest, skipTrivia? true cs = some rest → IsSkippedInside cs rest := by
  induction cs with
  | nil =>
    refine ⟨fun rest read => ?_, fun rest read => ?_⟩
    · cases read
      exact ⟨[], rfl, fun more noQuote => noQuote, fun nonempty => absurd rfl nonempty⟩
    · cases read
      exact ⟨[], rfl, fun nonempty => absurd rfl nonempty⟩
  | cons c cs ih =>
    obtain ⟨outside, inside⟩ := ih
    refine ⟨fun rest read => ?_, fun rest read => ?_⟩
    · rw [skipTrivia?] at read
      split at read
      · rename_i isFeed
        subst isFeed
        exact (outside rest read).cons (by decide) rfl
      · rw [if_neg Bool.false_ne_true] at read
        split at read
        · rename_i blank
          obtain ⟨noComment, noQuote⟩ := plain_of_isBlank blank
          exact (outside rest read).cons noComment noQuote
        · split at read
          · rename_i isComment
            subst isComment
            exact (inside rest read).start
          · cases read
            exact ⟨[], rfl, fun more noQuote => noQuote, fun _ more => rfl⟩
    · rw [skipTrivia?] at read
      split at read
      · rename_i isFeed
        subst isFeed
        exact (outside rest read).endLine
      · rename_i noFeed
        rw [if_pos rfl] at read
        split at read
        · exact (inside rest read).cons noFeed
        · cases read

theorem skipTrivia?_consumed (read : skipTrivia? false cs = some rest) : IsSkipped cs rest :=
  (isSkipped_of_skipTrivia? cs).1 rest read

/-- What a line ends with, a comment included, and what is left after it. -/
theorem exists_lineEnd (cs : List Char) :
    ∃ piece after, cs = piece ++ after ∧
      (if (cs.dropWhile isBlank).head? = some '#' then (cs.dropWhile isBlank).dropWhile isPrintable
        else cs.dropWhile isBlank) = after ∧
      (∀ more, NoQuoteNext more → NoQuoteNext (piece ++ more)) ∧
      ∀ more, (∀ c ∈ more.head?, c = '\n') →
        comments (piece ++ more) = comments piece ++ comments more := by
  have whole : cs.takeWhile isBlank ++ cs.dropWhile isBlank = cs :=
    List.takeWhile_append_dropWhile
  by_cases isComment : (cs.dropWhile isBlank).head? = some '#'
  · obtain ⟨after, isAfter⟩ := List.head?_eq_some_iff.mp isComment
    have oneLine : '\n' ∉ after.takeWhile isPrintable := fun isTaken =>
      ne_feed_of_isPrintable (List.all_eq_true.mp List.all_takeWhile _ isTaken) rfl
    refine ⟨cs.takeWhile isBlank ++ '#' :: after.takeWhile isPrintable,
      after.dropWhile isPrintable, ?_, ?_, fun more _ => ?_, fun more isFeed => ?_⟩
    · rw [List.append_assoc, List.cons_append, List.takeWhile_append_dropWhile, ← isAfter, whole]
    · rw [if_pos isComment, isAfter]
      rfl
    · rw [List.append_assoc]
      exact noQuoteNext_blanks cs (noQuoteNext_cons rfl _)
    · have alone : comments ('#' :: (after.takeWhile isPrintable ++ [])) = _ :=
        comments_comment oneLine (by simp)
      rw [List.append_nil] at alone
      rw [List.append_assoc, comments_blanks, comments_blanks, List.cons_append,
        comments_comment oneLine isFeed, alone]
      rfl
  · refine ⟨cs.takeWhile isBlank, cs.dropWhile isBlank, whole.symm, if_neg isComment,
      fun more => noQuoteNext_blanks cs, fun more _ => ?_⟩
    rw [comments_blanks, comments_takeWhile_isBlank]
    rfl

/-- The comment at the end of a line is in the text of its end. -/
theorem lineEnd?_consumed {ending : String} {next : List Char}
    (read : lineEnd? cs = some (ending, next)) :
    ∃ piece, ending = String.ofList piece ∧ ∃ feed, cs = piece ++ (feed ++ next) ∧
      NoQuoteNext cs ∧ comments cs = comments piece ++ comments next := by
  obtain ⟨piece, after, isCs, isAfter, noQuotes, splits⟩ := exists_lineEnd cs
  have isPiece : taken cs after = String.ofList piece := by rw [isCs, taken_append]
  rw [lineEnd?, isAfter] at read
  split at read
  · cases read
    exact ⟨piece, isPiece, [], isCs, isCs ▸ noQuotes [] noQuoteNext_nil, by
      rw [isCs, splits [] (by simp)]⟩
  · cases read
    have isFeed : ∀ c ∈ ('\n' :: next).head?, c = '\n' := fun c isHead =>
      (Option.some.inj isHead).symm
    refine ⟨piece, isPiece, ['\n'], isCs, isCs ▸ noQuotes _ fun c isHead => ?_, ?_⟩
    · rw [isFeed c isHead]
      rfl
    · rw [isCs, splits _ isFeed, comments_cons (by decide) rfl]
  · cases read

/-! ## Values -/

/-- A text that ends outside of strings and comments. -/
def IsClosed (piece : List Char) : Prop :=
  ∀ more, NoQuoteNext more → comments (piece ++ more) = comments piece ++ comments more

/-- It is enough to know which comments a text has, whatever follows. -/
theorem isClosed_of_forall {found : List String}
    (splits : ∀ more, NoQuoteNext more → comments (piece ++ more) = found ++ comments more) :
    IsClosed piece ∧ comments piece = found := by
  have alone := splits [] noQuoteNext_nil
  rw [comments_nil, List.append_nil, List.append_nil] at alone
  exact ⟨fun more noQuote => by rw [alone, splits more noQuote], alone⟩

/-- The comments in fragments. -/
def commentsOf (fragments : List Fragment) : List String :=
  fragments.flatMap fun fragment => comments fragment.text.toList

theorem commentsOf_append (first second : List Fragment) :
    commentsOf (first ++ second) = commentsOf first ++ commentsOf second :=
  List.flatMap_append

theorem commentsOf_perm {first second : List Fragment} (same : first.Perm second) :
    (commentsOf first).Perm (commentsOf second) :=
  same.flatMap_right _

theorem commentsOf_decor (path : List String) (role : Role) (before after : String) :
    commentsOf (Decor.fragments path role ⟨some before, some after⟩) =
      comments before.toList ++ comments after.toList := by
  simp [commentsOf, Decor.fragments]

/-- What stands before a path has its comments as the key of the path has them. -/
theorem commentsOf_leaf {start finish : List Char} (isLeaf : key.leaf =
      ⟨some (before ++ String.ofList (start.takeWhile isBlank)),
        some (String.ofList (finish.takeWhile isBlank))⟩)
    (splits : ∀ more, comments (before.toList ++ more) = comments before.toList ++ comments more)
    (path : List String) (role : Role) :
    commentsOf (key.leaf.fragments path role) = comments before.toList := by
  rw [isLeaf, commentsOf_decor, String.toList_append, String.toList_ofList, String.toList_ofList,
    splits, comments_takeWhile_isBlank, comments_takeWhile_isBlank, List.append_nil,
    List.append_nil]

/-- The fragments of a value without those around it. -/
def Item.inside (base : List String) : Item → List Fragment
  | .value _ text _ => [⟨base, .value, text⟩]
  | .inlineTable _ _ _ entries => entriesFragments true base entries
  | _ => []

/-- What is read as a value. -/
def Item.IsValue : Item → Prop
  | .value _ _ data => data ≠ .null
  | .inlineTable dotted _ _ entries => dotted = false ∧ entriesSound true entries
  | _ => False

theorem Item.IsValue.isSound_surround {item : Item} (isValue : item.IsValue) (decor : Decor)
    (inBraces : Bool) : (item.surround decor).IsSound inBraces := by
  cases item with
  | value old text data => exact isValue
  | inlineTable dotted old padding entries => exact isValue.2
  | table | tables => exact isValue.elim

theorem Item.IsValue.fragments_surround {item : Item} (isValue : item.IsValue) (decor : Decor)
    (inBraces : Bool) (base : List String) (key : Key) :
    (item.surround decor).fragments inBraces base key =
      key.leaf.fragments (base ++ [key.name]) .key ++
        decor.fragments (base ++ [key.name]) .value ++ item.inside (base ++ [key.name]) := by
  cases item with
  | value old text data => rfl
  | inlineTable dotted old padding entries =>
    obtain ⟨rfl, -⟩ := isValue
    rfl
  | table | tables => exact isValue.elim

theorem word_consumed {written : List Char} (isWord : word cs = (written, rest)) :
    cs = written ++ rest ∧ ∀ c ∈ written, c ≠ '#' ∧ isQuoteChar c = false := by
  have plain (cs : List Char) : ∀ c ∈ cs.takeWhile isWordChar, c ≠ '#' ∧ isQuoteChar c = false := by
    intro c isTaken
    have isWordChar := List.all_eq_true.mp List.all_takeWhile c isTaken
    have differs (sign : Char) (isSign : Toml.isWordChar sign = false) : c ≠ sign := by
      rintro rfl
      exact Bool.false_ne_true (isSign.symm.trans isWordChar)
    refine ⟨differs '#' rfl, ?_⟩
    simp [isQuoteChar, differs '"' rfl, differs '\'' rfl]
  have first : cs.takeWhile isWordChar ++ cs.dropWhile isWordChar = cs :=
    List.takeWhile_append_dropWhile
  rw [word] at isWord
  split at isWord
  · rename_i d more isDate isBlank
    rw [isBlank] at first
    split at isWord
    · cases isWord
      refine ⟨?_, ?_⟩
      · rw [List.append_assoc, List.cons_append, List.takeWhile_append_dropWhile, first]
      · rw [List.forall_mem_append, List.forall_mem_cons]
        exact ⟨plain cs, by decide, plain (d :: more)⟩
    · cases isWord
      exact ⟨first.symm, plain cs⟩
  · cases isWord
    exact ⟨first.symm, plain cs⟩

theorem wordData?_ne_null {written : List Char} {data : Json}
    (read : wordData? written = some data) : data ≠ .null := by
  rintro rfl
  rw [wordData?] at read
  split at read
  · cases read
  · split at read
    · cases read
    · split at read
      · cases read
      · cases read
      · split at read <;> cases read

/-- A text that is read as a value has its comments. -/
structure IsValueText (piece : List Char) (item : Item) : Prop where
  isValue : item.IsValue
  isClosed : IsClosed piece
  comments : ∀ base, (commentsOf (item.inside base)).Perm (comments piece)

theorem isValueText_text {data : Json} (isClosed : IsClosed piece) (notNull : data ≠ .null) :
    IsValueText piece (.value {} (String.ofList piece) data) where
  isValue := notNull
  isClosed := isClosed
  comments base := by
    simp [commentsOf, Item.inside]

theorem IsSilent.isClosed (silent : IsSilent piece) : IsClosed piece ∧ comments piece = [] :=
  isClosed_of_forall silent

/-- What reading says about a value, the items of an array and the pairs in braces, all of them
nested as deep as the fuel allows. -/
structure ReadsValues (fuel : Nat) : Prop where
  value : ∀ {depth cs item rest}, value? fuel depth cs = some (item, rest) →
    ∃ piece, cs = piece ++ rest ∧ IsValueText piece item
  items : ∀ {depth cs items rest}, items? fuel depth cs = some (items, rest) →
    ∃ piece, cs = piece ++ rest ∧ IsClosed piece
  pairs : ∀ {depth entries cs after rest}, entriesSound true entries →
    pairs? fuel depth entries cs = some (after, rest) →
    entriesSound true after ∧ ∃ piece, cs = piece ++ rest ∧ IsClosed piece ∧
      ∀ base, (commentsOf (entriesFragments true base after)).Perm
        (commentsOf (entriesFragments true base entries) ++ comments piece)

/-- A text is what was taken of it and what is left. -/
theorem taken_of_eq (whole : cs = piece ++ rest) : taken cs rest = String.ofList piece := by
  rw [whole, taken_append]

/-- A sign in front of a text in brackets is passed over. -/
theorem IsClosed.cons (isClosed : IsClosed piece) (noComment : c ≠ '#')
    (noQuote : isQuoteChar c = false) :
    IsClosed (c :: piece) ∧ comments (c :: piece) = comments piece := by
  refine isClosed_of_forall fun more isNext => ?_
  rw [List.cons_append, comments_cons noComment noQuote, isClosed more isNext]

/-- A string is read as a value. -/
theorem isValueText_string {item : Item} (read : (string? cs).bind (fun result =>
      some (Item.value {} (taken cs result.2) (.string result.1), result.2)) = some (item, rest)) :
    ∃ piece, cs = piece ++ rest ∧ IsValueText piece item := by
  obtain ⟨⟨text, after⟩, isString, read⟩ := Option.bind_eq_some_iff.mp read
  cases read
  obtain ⟨c, literal, whole, isQuote, again⟩ := string?_consumed isString
  refine ⟨c :: literal, whole, ?_⟩
  dsimp only
  rw [taken_of_eq whole]
  exact isValueText_text (isSilent_string isQuote again).isClosed.1 (by simp)

/-- Braces with blanks between them are read as a table without entries. -/
theorem isValueText_braces (cs : List Char) (padding : String) :
    IsValueText ('\x7b' :: (cs.takeWhile isBlank ++ ['\x7d']))
      (.inlineTable false {} padding []) := by
  have silent : IsSilent ('\x7b' :: (cs.takeWhile isBlank ++ ['\x7d'])) := by
    intro more _
    rw [List.cons_append, List.append_assoc, comments_cons (by decide) rfl, comments_blanks]
    exact comments_cons (by decide) rfl more
  refine ⟨⟨rfl, trivial⟩, silent.isClosed.1, fun base => ?_⟩
  rw [silent.isClosed.2]
  rfl

theorem ReadsValues.value_succ (reads : ReadsValues fuel) {item : Item}
    (read : value? (fuel + 1) depth cs = some (item, rest)) :
    ∃ piece, cs = piece ++ rest ∧ IsValueText piece item := by
  rw [value?.eq_def] at read
  dsimp only at read
  split at read
  · -- an array
    obtain ⟨⟨items, after⟩, readItems, read⟩ := Option.bind_eq_some_iff.mp read
    cases read
    obtain ⟨inner, rfl, isClosed⟩ := reads.items readItems
    refine ⟨'[' :: inner, rfl, ?_⟩
    rw [taken_of_eq (List.cons_append).symm]
    exact isValueText_text (isClosed.cons (by decide) rfl).1 (by simp)
  · -- a table in braces
    rename_i inner depth
    split at read
    · rename_i isEnd
      cases read
      have whole : inner = inner.takeWhile isBlank ++ '\x7d' :: rest := by
        rw [← isEnd, List.takeWhile_append_dropWhile]
      refine ⟨'\x7b' :: (inner.takeWhile isBlank ++ ['\x7d']), ?_, isValueText_braces inner _⟩
      rw [List.cons_append, List.append_assoc]
      exact congrArg _ whole
    · obtain ⟨⟨entries, after⟩, readPairs, read⟩ := Option.bind_eq_some_iff.mp read
      cases read
      have noPairs : entriesSound true [] := trivial
      obtain ⟨sound, pairs, rfl, isClosed, found⟩ := reads.pairs noPairs readPairs
      obtain ⟨closed, same⟩ := isClosed.cons (c := '\x7b') (by decide) rfl
      refine ⟨'\x7b' :: pairs, rfl, ⟨rfl, sound⟩, closed, fun base => ?_⟩
      rw [same]
      exact found base
  · exact isValueText_string read
  · exact isValueText_string read
  · obtain ⟨data, isData, read⟩ := Option.bind_eq_some_iff.mp read
    cases read
    obtain ⟨whole, plain⟩ : cs = (word cs).1 ++ (word cs).2 ∧ _ := word_consumed rfl
    have silent : IsSilent (word cs).1 := fun more _ => comments_append_of_forall plain more
    exact ⟨(word cs).1, whole, isValueText_text silent.isClosed.1 (wordData?_ne_null isData)⟩

theorem ReadsValues.items_succ (reads : ReadsValues fuel) {items : List Json}
    (read : items? (fuel + 1) depth cs = some (items, rest)) :
    ∃ piece, cs = piece ++ rest ∧ IsClosed piece := by
  rw [items?] at read
  obtain ⟨start, skipped, read⟩ := Option.bind_eq_some_iff.mp read
  obtain ⟨trivia, whole, -, splits⟩ := skipTrivia?_consumed skipped
  split at read
  · cases read
    have ends (more : List Char) (_ : NoQuoteNext more) :
        comments (trivia ++ [']'] ++ more) = comments trivia ++ comments more := by
      rw [List.append_assoc, splits (List.cons_ne_nil _ _)]
      exact congrArg _ (comments_cons (by decide) rfl more)
    exact ⟨trivia ++ [']'], by simpa using whole, (isClosed_of_forall ends).1⟩
  · obtain ⟨⟨item, after⟩, readItem, read⟩ := Option.bind_eq_some_iff.mp read
    obtain ⟨next, skippedNext, read⟩ := Option.bind_eq_some_iff.mp read
    obtain ⟨value, isStart, isText⟩ := reads.value readItem
    obtain ⟨trail, isAfter, noQuotes, splitsTrail⟩ := skipTrivia?_consumed skippedNext
    -- A value, the blank text after it and a sign behind that.
    have parts {sign : Char} (noComment : sign ≠ '#') (noQuote : isQuoteChar sign = false)
        {left : List Char} (isNext : next = sign :: left) (more : List Char) :
        comments (trivia ++ (value ++ (trail ++ sign :: more))) =
          comments trivia ++ (comments value ++ (comments trail ++ comments more)) := by
      have hasNext : next ≠ [] := by simp [isNext]
      have hasStart : start ≠ [] := by
        rw [isStart, isAfter, isNext]
        simp
      rw [splits hasStart, isText.isClosed _ (noQuotes _ (noQuoteNext_cons noQuote more)),
        splitsTrail hasNext, comments_cons noComment noQuote]
    rw [isStart, isAfter] at whole
    split at read
    · obtain ⟨⟨items, rest⟩, readItems, read⟩ := Option.bind_eq_some_iff.mp read
      cases read
      obtain ⟨others, isOthers, closedOthers⟩ := reads.items readItems
      have goesOn (more : List Char) (isNext : NoQuoteNext more) :
          comments (trivia ++ (value ++ (trail ++ ',' :: others)) ++ more) =
            comments trivia ++ (comments value ++ (comments trail ++ comments others)) ++
              comments more := by
        simp only [List.append_assoc, List.cons_append]
        rw [parts (by decide) rfl rfl, closedOthers more isNext]
      refine ⟨trivia ++ (value ++ (trail ++ ',' :: others)), ?_, (isClosed_of_forall goesOn).1⟩
      rw [whole, isOthers]
      simp
    · cases read
      have ends (more : List Char) (_ : NoQuoteNext more) :
          comments (trivia ++ (value ++ (trail ++ [']'])) ++ more) =
            comments trivia ++ (comments value ++ comments trail) ++ comments more := by
        simp only [List.append_assoc, List.cons_append, List.nil_append]
        exact parts (by decide) rfl rfl more
      exact ⟨_, by simpa using whole, (isClosed_of_forall ends).1⟩
    · cases read

/-- A pair in braces and the sign behind it. -/
theorem comments_pair {keys value : List Char} (silent : IsSilent keys) (isClosed : IsClosed value)
    (noComment : c ≠ '#') (noQuote : isQuoteChar c = false) (start finish more : List Char) :
    comments (keys ++ '=' :: (start.takeWhile isBlank ++ (value ++
      (finish.takeWhile isBlank ++ c :: more)))) = comments value ++ comments more := by
  have isNext := noQuoteNext_cons noQuote more
  rw [silent _ (noQuoteNext_cons rfl _), comments_cons (by decide) rfl, comments_blanks,
    isClosed _ (noQuoteNext_blanks finish isNext), comments_blanks,
    comments_cons noComment noQuote]

/-- A pair in braces gets into the entries with the comments of its value. -/
theorem commentsOf_addPair? {entries after : Entries} {item : Item} {start finish : List Char}
    (isText : IsValueText piece item) (isLeaf : key.leaf =
      ⟨some ("" ++ String.ofList (start.takeWhile isBlank)),
        some (String.ofList (finish.takeWhile isBlank))⟩)
    (sound : entriesSound true entries) (line left : List Char)
    (added : addPair? true path key (item.surround ⟨some (taken line (line.dropWhile isBlank)),
      some (taken left (left.dropWhile isBlank))⟩) entries = some after) (base : List String) :
    entriesSound true after ∧ (commentsOf (entriesFragments true base after)).Perm
      (commentsOf (entriesFragments true base entries) ++ comments piece) := by
  have grows : Grows true base entries after _ :=
    Grows.addPair? (isText.isValue.isSound_surround _ true) sound added
  refine ⟨grows.sound, (commentsOf_perm grows.fragments).trans ?_⟩
  rw [commentsOf_append, isText.isValue.fragments_surround, commentsOf_append,
    commentsOf_append, commentsOf_leaf isLeaf (fun _ => rfl), commentsOf_decor]
  simp only [taken_dropWhile, String.toList_ofList, comments_takeWhile_isBlank]
  exact (isText.comments _).append_left _

theorem ReadsValues.pairs_succ (reads : ReadsValues fuel) {entries after : Entries}
    (sound : entriesSound true entries)
    (read : pairs? (fuel + 1) depth entries cs = some (after, rest)) :
    entriesSound true after ∧ ∃ piece, cs = piece ++ rest ∧ IsClosed piece ∧
      ∀ base, (commentsOf (entriesFragments true base after)).Perm
        (commentsOf (entriesFragments true base entries) ++ comments piece) := by
  rw [pairs?] at read
  obtain ⟨⟨path, key, left⟩, readPath, read⟩ := Option.bind_eq_some_iff.mp read
  obtain ⟨⟨keys, isCs, silent⟩, start, finish, isLeaf⟩ := keyPath?_consumed readPath
  dsimp only at read
  split at read
  · rename_i line
    obtain ⟨⟨item, left⟩, readItem, read⟩ := Option.bind_eq_some_iff.mp read
    obtain ⟨middle, added, read⟩ := Option.bind_eq_some_iff.mp read
    obtain ⟨value, isStart, isText⟩ := reads.value readItem
    have found := commentsOf_addPair? isText isLeaf sound line left added
    have whole : cs = keys ++ '=' :: (line.takeWhile isBlank ++ (value ++
        (left.takeWhile isBlank ++ left.dropWhile isBlank))) := by
      rw [List.takeWhile_append_dropWhile, ← isStart, List.takeWhile_append_dropWhile, isCs]
    split at read
    · rename_i next isNext
      obtain ⟨soundAfter, others, rfl, closedOthers, foundOthers⟩ :=
        reads.pairs (found []).1 read
      have goesOn (more : List Char) (noQuote : NoQuoteNext more) :
          comments (keys ++ '=' :: (line.takeWhile isBlank ++ (value ++
            (left.takeWhile isBlank ++ ',' :: others))) ++ more) =
            comments value ++ comments others ++ comments more := by
        simp only [List.append_assoc, List.cons_append]
        rw [comments_pair silent isText.isClosed (by decide) rfl, closedOthers more noQuote]
      obtain ⟨isClosed, same⟩ := isClosed_of_forall goesOn
      refine ⟨soundAfter, _, ?_, isClosed, fun base => ?_⟩
      · rw [whole, isNext]
        simp
      · rw [same, ← List.append_assoc]
        exact (foundOthers base).trans ((found base).2.append_right _)
    · rename_i next isNext
      cases read
      have ends (more : List Char) (_ : NoQuoteNext more) :
          comments (keys ++ '=' :: (line.takeWhile isBlank ++ (value ++
            (left.takeWhile isBlank ++ ['\x7d']))) ++ more) =
            comments value ++ comments more := by
        simp only [List.append_assoc, List.cons_append, List.nil_append]
        exact comments_pair silent isText.isClosed (by decide) rfl line left more
      obtain ⟨isClosed, same⟩ := isClosed_of_forall ends
      refine ⟨(found []).1, _, ?_, isClosed, fun base => ?_⟩
      · rw [whole, isNext]
        simp
      · rw [same]
        exact (found base).2
    · cases read
  · cases read

/-- Values, arrays and tables in braces have their comments, however deep they are nested. -/
theorem readsValues (fuel : Nat) : ReadsValues fuel := by
  induction fuel with
  | zero =>
    constructor
    · intro depth cs item rest read
      cases read
    · intro depth cs items rest read
      cases read
    · intro depth entries cs after rest sound read
      cases read
  | succ fuel ih => exact ⟨ih.value_succ, ih.items_succ, ih.pairs_succ⟩

/-! ## Statements -/

variable {statement : Statement} {next : List Char}

/-- The comment at the end of a header is in what surrounds it. -/
theorem header?_consumed (read : header? before cs = some (statement, next)) :
    ∃ isElement path key after, statement = .header isElement ⟨some before, some after⟩ path key ∧
      comments cs = comments after.toList ++ comments next := by
  rw [header?.eq_def] at read
  split at read
  rename_i isElement inner isOpen
  have same : comments cs = comments inner := by
    split at isOpen
    · cases isOpen
      exact comments_cons (by decide) rfl inner
    · cases isOpen
      rfl
  obtain ⟨⟨path, key, left⟩, readPath, read⟩ := Option.bind_eq_some_iff.mp read
  obtain ⟨⟨keys, isInner, silent⟩, -⟩ := keyPath?_consumed readPath
  -- What is left of the line after the brackets.
  have ends {line : List Char} (isLeft : comments left = comments line)
      (noQuote : NoQuoteNext left) (read : (lineEnd? line).bind (fun result =>
        some (Statement.header isElement ⟨some before, some result.1⟩ path key, result.2)) =
          some (statement, next)) :
      ∃ isElement path key after, statement = .header isElement ⟨some before, some after⟩ path key ∧
        comments cs = comments after.toList ++ comments next := by
    obtain ⟨⟨after, next⟩, ends, read⟩ := Option.bind_eq_some_iff.mp read
    cases read
    obtain ⟨piece, rfl, -, -, -, found⟩ := lineEnd?_consumed ends
    refine ⟨isElement, path, key, _, rfl, ?_⟩
    rw [same, isInner, silent _ noQuote, isLeft, found, String.toList_ofList]
  dsimp only at read
  split at read
  · refine ends ?_ (noQuoteNext_cons rfl _) read
    rw [comments_cons (by decide) rfl, comments_cons (by decide) rfl]
  · exact ends (comments_cons (by decide) rfl _) (noQuoteNext_cons rfl _) read
  · cases read

/-- The comments in front of a pair, in its value and at the end of its line are in its fragments.
-/
theorem pair?_consumed (read : pair? before cs = some (statement, next))
    (splits : ∀ more, comments (before.toList ++ more) = comments before.toList ++ comments more) :
    ∃ path key item, statement = .pair path key item ∧ item.IsSound false ∧
      ∀ base, (commentsOf (item.fragments false base key) ++ comments next).Perm
        (comments before.toList ++ comments cs) := by
  rw [pair?] at read
  obtain ⟨⟨path, key, left⟩, readPath, read⟩ := Option.bind_eq_some_iff.mp read
  obtain ⟨⟨keys, isCs, silent⟩, start, finish, isLeaf⟩ := keyPath?_consumed readPath
  dsimp only at read
  split at read
  · rename_i line
    obtain ⟨⟨item, left⟩, readItem, read⟩ := Option.bind_eq_some_iff.mp read
    obtain ⟨⟨after, next⟩, ends, read⟩ := Option.bind_eq_some_iff.mp read
    cases read
    obtain ⟨value, isStart, isText⟩ := (readsValues _).value readItem
    obtain ⟨piece, rfl, -, -, noQuote, found⟩ := lineEnd?_consumed ends
    have isLine : line = line.takeWhile isBlank ++ (value ++ left) := by
      rw [← isStart, List.takeWhile_append_dropWhile]
    have parts : comments cs = comments value ++ (comments piece ++ comments next) := by
      rw [isCs, silent _ (noQuoteNext_cons rfl _), comments_cons (by decide) rfl, isLine,
        comments_blanks, isText.isClosed _ noQuote, found]
    refine ⟨path, key, _, rfl, isText.isValue.isSound_surround _ false, fun base => ?_⟩
    rw [isText.isValue.fragments_surround, commentsOf_append, commentsOf_append,
      commentsOf_leaf isLeaf splits, commentsOf_decor, parts]
    simp only [taken_dropWhile, String.toList_ofList, comments_takeWhile_isBlank,
      List.nil_append, List.append_assoc]
    refine List.Perm.append_left _ ?_
    exact (((isText.comments _).append_right _).append_left _).trans
      (List.perm_append_comm_assoc ..)
  · cases read

theorem statements?_consumed {statements : List Statement} {trailing : String}
    (read : statements? fuel cs = some (statements, trailing)) :
    (∀ statement ∈ statements, statement.IsSound) ∧
      ∀ base, (commentsOf (statementsFragments base statements) ++ comments trailing.toList).Perm
        (comments cs) := by
  induction fuel generalizing cs statements with
  | zero => cases read
  | succ fuel ih =>
    rw [statements?] at read
    obtain ⟨start, skipped, read⟩ := Option.bind_eq_some_iff.mp read
    obtain ⟨trivia, whole, -, splits⟩ := skipTrivia?_consumed skipped
    dsimp only at read
    rw [taken_of_eq whole] at read
    split at read
    · rename_i isEnd
      cases read
      refine ⟨List.forall_mem_nil _, fun base => ?_⟩
      rw [whole, List.isEmpty_iff.mp isEnd, String.toList_ofList, List.append_nil]
      rfl
    · rename_i hasStart
      have hasStart : start ≠ [] := by simpa using hasStart
      have splits := splits hasStart
      rw [whole, splits start]
      split at read
      · obtain ⟨⟨statement, next⟩, readHeader, read⟩ := Option.bind_eq_some_iff.mp read
        obtain ⟨⟨others, trailing⟩, readOthers, read⟩ := Option.bind_eq_some_iff.mp read
        cases read
        obtain ⟨isElement, path, key, after, rfl, found⟩ := header?_consumed readHeader
        obtain ⟨soundOthers, foundOthers⟩ := ih readOthers
        refine ⟨List.forall_mem_cons.mpr ⟨trivial, soundOthers⟩, fun base => ?_⟩
        rw [statementsFragments, commentsOf_append, commentsOf_decor, comments_cons (by decide) rfl,
          found, String.toList_ofList, List.append_assoc, List.append_assoc]
        exact ((foundOthers _).append_left _).append_left _
      · obtain ⟨⟨statement, next⟩, readPair, read⟩ := Option.bind_eq_some_iff.mp read
        obtain ⟨⟨others, trailing⟩, readOthers, read⟩ := Option.bind_eq_some_iff.mp read
        cases read
        obtain ⟨path, key, item, rfl, soundItem, found⟩ :=
          pair?_consumed readPair (by simpa only [String.toList_ofList] using splits)
        obtain ⟨soundOthers, foundOthers⟩ := ih readOthers
        refine ⟨List.forall_mem_cons.mpr ⟨soundItem, soundOthers⟩, fun base => ?_⟩
        rw [statementsFragments, commentsOf_append, List.append_assoc]
        refine ((foundOthers base).append_left _).trans ?_
        simpa only [String.toList_ofList] using found (base ++ path.map (·.name))

/-! ## Documents -/

/-- A mark of the byte order is no part of a comment. -/
theorem comments_unmarked (cs : List Char) :
    comments (if cs.head? = some '\ufeff' then cs.drop 1 else cs) = comments cs := by
  split
  · rename_i isMark
    obtain ⟨rest, rfl⟩ := List.head?_eq_some_iff.mp isMark
    exact (comments_cons (by decide) rfl rest).symm
  · rfl

/-- The comments of a document are those of the text that it was read from, each once. -/
theorem Document.comments_of_parse? {text : String} {document : Document}
    (parsed : parse? text = some document) :
    entriesSound false document.entries ∧
      (commentsOf document.fragments).Perm (comments (joinLineEnds text.toList)) := by
  rw [parse?] at parsed
  obtain ⟨⟨statements, trailing⟩, isRead, parsed⟩ := Option.bind_eq_some_iff.mp parsed
  obtain ⟨pairs, addedPairs, parsed⟩ := Option.bind_eq_some_iff.mp parsed
  obtain ⟨entries, addedTables, parsed⟩ := Option.bind_eq_some_iff.mp parsed
  cases parsed
  obtain ⟨soundStatements, found⟩ := statements?_consumed isRead
  obtain ⟨sound, fragments⟩ := fragments_of_statements soundStatements addedPairs addedTables
  refine ⟨sound, ?_⟩
  rw [Document.fragments, commentsOf_append, ← comments_unmarked]
  have ending : commentsOf [⟨[], .ending, trailing⟩] = comments trailing.toList := by
    simp [commentsOf]
  rw [ending]
  exact ((commentsOf_perm fragments).append_right _).trans (found [])

/-- The comments of a document, each at its place. -/
def Document.comments (document : Document) : List Fragment :=
  document.fragments.flatMap fun fragment =>
    (Toml.comments fragment.text.toList).map fun comment => { fragment with text := comment }

/-- A comment of a document stands in its text. -/
theorem Document.within_text_of_mem_comments {document : Document} {comment : Fragment}
    (isComment : comment ∈ document.comments) : Within comment.text document.text := by
  obtain ⟨fragment, isFragment, inFragment⟩ := List.mem_flatMap.mp isComment
  obtain ⟨written, isWritten, rfl⟩ := List.mem_map.mp inFragment
  have inFragment : Within written fragment.text := isInfix_of_mem_commentsFrom isWritten
  exact inFragment.trans (within_text isFragment)

theorem Document.map_text_comments (document : Document) :
    document.comments.map (·.text) = commentsOf document.fragments := by
  simp only [comments, commentsOf, List.map_flatMap, List.map_map, Function.comp_def, List.map_id']

end TypedClient.Toml
