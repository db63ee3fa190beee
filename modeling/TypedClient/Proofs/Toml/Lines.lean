/-
# Lines of TOML documents

What a line is made of, and how it is read: a key or a header, a value, and the blanks and comments
around them. A piece of a text made of whole lines is read as the same statements wherever it
stands, so the text of a document is read piece by piece.
-/

import TypedClient.Proofs.Toml.Comments
import TypedClient.Toml.Printer
import TypedClient.Toml.Reader

namespace TypedClient.Toml

variable {c : Char} {cs rest piece others : List Char} {name text : String} {decor : Decor}
  {data : Json} {statement : Statement} {statements more : List Statement}

/-! ## Blank text and comments -/

theorem taken_append (front rest : List Char) :
    taken (front ++ rest) rest = String.ofList front := by
  simp [taken]

/-- Nothing is skipped in front of a character that is neither blank nor a line end and begins
no comment. -/
theorem skipTrivia?_visible (noFeed : c ≠ '\n') (visible : isBlank c = false)
    (noComment : c ≠ '#') (rest : List Char) :
    skipTrivia? false (c :: rest) = some (c :: rest) := by
  simp [skipTrivia?, noFeed, visible, noComment]

theorem noReturn_of_isPrintable (printable : isPrintable c = true) : c ≠ '\r' := by
  rintro rfl
  cases printable

/-- Blank text and whole comments: what is skipped in front of every text. -/
structure IsTrivia (trivia : List Char) : Prop where
  noReturn : '\r' ∉ trivia
  skips : ∀ more, skipTrivia? false (trivia ++ more) = skipTrivia? false more

theorem isTrivia_of_blanks (blank : ∀ c ∈ cs, isBlank c = true) : IsTrivia cs := by
  refine ⟨fun isIn => absurd (blank _ isIn) (by decide), fun more => ?_⟩
  induction cs with
  | nil => rfl
  | cons c cs ih =>
    obtain ⟨isBlank, blanks⟩ := List.forall_mem_cons.mp blank
    have noFeed : c ≠ '\n' := by
      rintro rfl
      cases isBlank
    rw [List.cons_append, skipTrivia?, if_neg noFeed, if_neg Bool.false_ne_true, if_pos isBlank,
      ih blanks]

theorem isBlank_of_mem_empty : ∀ c ∈ "".toList, isBlank c = true := by simp

theorem isBlank_of_mem_space : ∀ c ∈ " ".toList, isBlank c = true := by simp [isBlank]

theorem isTrivia_empty : IsTrivia "".toList := isTrivia_of_blanks isBlank_of_mem_empty

theorem isTrivia_feed : IsTrivia ['\n'] where
  noReturn := by decide
  skips rest := by rw [List.singleton_append, skipTrivia?, if_pos rfl]

theorem IsTrivia.append {first second : List Char} (isFirst : IsTrivia first)
    (isSecond : IsTrivia second) : IsTrivia (first ++ second) where
  noReturn := List.not_mem_append isFirst.noReturn isSecond.noReturn
  skips more := by rw [List.append_assoc, isFirst.skips, isSecond.skips]

theorem blank_of_mem_takeWhile (isTaken : c ∈ cs.takeWhile isBlank) : isBlank c = true :=
  List.all_eq_true.mp List.all_takeWhile c isTaken

/-! ## Keys -/

/-- A name that needs no quotes as a key. -/
structure IsBare (name : String) : Prop where
  nonempty : name.toList ≠ []
  bare : ∀ c ∈ name.toList, isBareKeyChar c = true

theorem IsBare.exists_cons (isBare : IsBare name) :
    ∃ c cs, name.toList = c :: cs ∧ isBareKeyChar c = true := by
  obtain ⟨c, cs, isCons⟩ := List.exists_cons_of_ne_nil isBare.nonempty
  exact ⟨c, cs, isCons, isBare.bare c (by rw [isCons]; exact List.mem_cons_self)⟩

/-- Bare keys have none of the signs of a document. -/
theorem ne_of_isBareKeyChar (bare : isBareKeyChar c = true) (sign : Char)
    (isSign : isBareKeyChar sign = false) : c ≠ sign := by
  rintro rfl
  exact absurd (bare.symm.trans isSign) (by decide)

theorem keyName?_bare (isBare : IsBare name)
    (other : ∀ c ∈ rest.head?, isBareKeyChar c = false) :
    keyName? (name.toList ++ rest) = some (name, rest) := by
  obtain ⟨c, cs, isCons, bareHead⟩ := isBare.exists_cons
  have bare := isBare.bare
  have stops : rest.takeWhile isBareKeyChar = [] ∧ rest.dropWhile isBareKeyChar = rest := by
    cases rest with
    | nil => exact ⟨rfl, rfl⟩
    | cons d rest => simp [other d rfl]
  have takes : (name.toList ++ rest).takeWhile isBareKeyChar = name.toList := by
    rw [List.takeWhile_append_of_pos bare, stops.1, List.append_nil]
  have drops : (name.toList ++ rest).dropWhile isBareKeyChar = rest := by
    rw [List.dropWhile_append_of_pos bare, stops.2]
  have notDouble := ne_of_isBareKeyChar bareHead '"' rfl
  have notSingle := ne_of_isBareKeyChar bareHead '\'' rfl
  unfold keyName?
  split
  · rename_i text isText
    rw [isCons] at isText
    exact absurd (List.cons.inj isText).1 notDouble
  · rename_i text isText
    rw [isCons] at isText
    exact absurd (List.cons.inj isText).1 notSingle
  · rw [takes, drops]
    simp [isCons ▸ List.cons_ne_nil c cs]

theorem noReturn_of_isBare (isBare : IsBare name) : '\r' ∉ name.toList :=
  fun member => absurd (isBare.bare _ member) (by decide)

/-- A key as it is spelled: it is read with its name wherever no bare key could go on. -/
structure IsKeyText (written : List Char) (name : String) : Prop where
  begins : ∃ c cs, written = c :: cs ∧ (isBareKeyChar c = true ∨ isQuoteChar c = true)
  noReturn : '\r' ∉ written
  reads : ∀ more, (∀ c ∈ more.head?, isBareKeyChar c = false) →
    keyName? (written ++ more) = some (name, more)

theorem isKeyText_of_isBare (isBare : IsBare name) : IsKeyText name.toList name where
  begins := by
    obtain ⟨c, cs, isCons, bare⟩ := isBare.exists_cons
    exact ⟨c, cs, isCons, .inl bare⟩
  noReturn := noReturn_of_isBare isBare
  reads _ stops := keyName?_bare isBare stops

/-- A key that stands alone, as it is read. -/
def Key.spelled (name written before after : String) : Key :=
  { name, written := some written, leaf := ⟨some before, some after⟩, dotted := ⟨some "", some ""⟩ }

/-- What stops a bare key after blanks, and is no point. -/
structure StopsKey (c : Char) : Prop where
  notBare : isBareKeyChar c = false
  visible : isBlank c = false
  noPoint : c ≠ '.'

namespace IsKeyText

variable {written blanks after : List Char}

/-- A key is seen, and is no header. -/
theorem visible (isText : IsKeyText written name) : ∃ c cs, written = c :: cs ∧ c ≠ '\n' ∧
    isBlank c = false ∧ c ≠ '#' ∧ c ≠ '[' := by
  obtain ⟨c, cs, isCons, begins⟩ := isText.begins
  have differs (sign : Char) (notBare : isBareKeyChar sign = false)
      (noQuote : isQuoteChar sign = false) : c ≠ sign := by
    rintro rfl
    rcases begins with bare | isQuote
    · exact Bool.false_ne_true (notBare.symm.trans bare)
    · exact Bool.false_ne_true (noQuote.symm.trans isQuote)
  refine ⟨c, cs, isCons, differs _ rfl rfl, ?_, differs _ rfl rfl, differs _ rfl rfl⟩
  simp [isBlank, differs ' ' rfl rfl, differs '\t' rfl rfl]

theorem dropWhile_isBlank (isText : IsKeyText written name)
    (blank : ∀ c ∈ blanks, isBlank c = true) (more : List Char) :
    (blanks ++ (written ++ more)).dropWhile isBlank = written ++ more := by
  obtain ⟨c, cs, rfl, -, visible, -⟩ := isText.visible
  rw [List.dropWhile_append_of_pos blank, List.cons_append,
    List.dropWhile_cons_of_neg (by simp [visible])]

/-- A key is read with the blanks around it, up to a sign. -/
theorem keys?_eq (isText : IsKeyText written name) (blankBefore : ∀ c ∈ blanks, isBlank c = true)
    (blankAfter : ∀ c ∈ after, isBlank c = true) (notBare : isBareKeyChar c = false)
    (visible : isBlank c = false) (fuel : Nat) (more : List Char) :
    keys? (fuel + 1) (blanks ++ (written ++ (after ++ c :: more))) =
      let key : Key :=
        { name, written := some (String.ofList written)
          dotted := ⟨some (String.ofList blanks), some (String.ofList after)⟩ }
      if c = '.' then (keys? fuel more).map fun read => (key :: read.1, read.2)
      else some ([key], c :: more) := by
  have stops : ∀ d ∈ (after ++ c :: more).head?, isBareKeyChar d = false := by
    cases after with
    | nil =>
      intro d isHead
      cases isHead
      exact notBare
    | cons b after =>
      intro d isHead
      cases isHead
      have isBlank : b = ' ' ∨ b = '\t' := by
        simpa [Toml.isBlank] using blankAfter b List.mem_cons_self
      rcases isBlank with rfl | rfl <;> rfl
  have next : (after ++ c :: more).dropWhile isBlank = c :: more := by
    rw [List.dropWhile_append_of_pos blankAfter, List.dropWhile_cons_of_neg (by simp [visible])]
  rw [keys?, isText.dropWhile_isBlank blankBefore]
  simp only [isText.reads _ stops, Option.bind_eq_bind, Option.bind_some, next, taken_append]
  split
  · rename_i later isPoint
    obtain ⟨rfl, rfl⟩ := List.cons.inj isPoint
    cases keys? fuel more <;> rfl
  · rename_i noPoint
    rw [if_neg fun isPoint => noPoint more (by rw [isPoint])]

/-- A key alone is read with what stands before it. -/
theorem keyPath?_eq (isText : IsKeyText written name)
    (blankBefore : ∀ c ∈ blanks, isBlank c = true) (blankAfter : ∀ c ∈ after, isBlank c = true)
    (stops : StopsKey c) (before : String) (more : List Char) :
    keyPath? before (blanks ++ (written ++ (after ++ c :: more))) =
      some ([], .spelled name (String.ofList written) (before ++ String.ofList blanks)
        (String.ofList after), c :: more) := by
  rw [keyPath?, isText.keys?_eq blankBefore blankAfter stops.notBare stops.visible]
  simp [stops.noPoint, Key.spelled]

end IsKeyText

/-! ## Ends of lines -/

/-- The end of a line: blanks, and a comment or none. -/
inductive IsLineEnd : List Char → Prop
  | blank {blanks : List Char} (blank : ∀ c ∈ blanks, isBlank c = true) : IsLineEnd blanks
  | comment {blanks comment : List Char} (blank : ∀ c ∈ blanks, isBlank c = true)
    (printable : ∀ c ∈ comment, isPrintable c = true) : IsLineEnd (blanks ++ '#' :: comment)

namespace IsLineEnd

variable {ending : List Char}

theorem noReturn (isEnd : IsLineEnd ending) : '\r' ∉ ending := by
  cases isEnd with
  | blank blank => exact (isTrivia_of_blanks blank).noReturn
  | comment blank printable =>
    refine List.not_mem_append (isTrivia_of_blanks blank).noReturn ?_
    exact List.not_mem_cons_of_ne_of_not_mem (by decide) fun isIn =>
      noReturn_of_isPrintable (printable _ isIn) rfl

/-- The end of a line is found in front of every other line. -/
theorem lineEnd?_eq (isEnd : IsLineEnd ending) (next : List Char) :
    lineEnd? (ending ++ '\n' :: next) = some (String.ofList ending, next) := by
  cases isEnd with
  | blank blank =>
    have start : (ending ++ '\n' :: next).dropWhile isBlank = '\n' :: next := by
      rw [List.dropWhile_append_of_pos blank]
      rfl
    rw [lineEnd?, start]
    simp [taken_append]
  | @comment blanks comment blank printable =>
    have start : (blanks ++ '#' :: comment ++ '\n' :: next).dropWhile isBlank =
        '#' :: (comment ++ '\n' :: next) := by
      rw [List.append_assoc, List.dropWhile_append_of_pos blank]
      rfl
    have stop : ('#' :: (comment ++ '\n' :: next)).dropWhile isPrintable = '\n' :: next := by
      rw [List.dropWhile_cons_of_pos rfl, List.dropWhile_append_of_pos printable]
      rfl
    have piece := taken_append (blanks ++ '#' :: comment) ('\n' :: next)
    rw [lineEnd?, start]
    simp only [List.head?_cons, if_true, stop, piece]

end IsLineEnd

/-! ## Lines -/

/-- A value in its surroundings, the line of which is read again. -/
structure IsLineValue (decor : Decor) (text : String) (data : Json) : Prop where
  starts : ∃ c cs, text.toList = c :: cs ∧ isBlank c = false
  noReturn : '\r' ∉ text.toList
  before : ∀ before ∈ decor.before, ∀ c ∈ before.toList, isBlank c = true
  after : IsLineEnd (decor.after.getD "").toList
  reads : ∀ fuel more, 2 * text.toList.length < fuel →
    value? fuel depthLimit (text.toList ++ ((decor.after.getD "").toList ++ '\n' :: more)) =
      some (.value {} text data, (decor.after.getD "").toList ++ '\n' :: more)

/-- The text of a value, which is read up to the end of its line. -/
structure ReadsAs (text : String) (data : Json) : Prop where
  visible : ∀ c ∈ text.toList.head?, isBlank c = false
  reads : ∀ fuel depth rest, text.toList.length < fuel →
    value? fuel (depth + 1) (text.toList ++ '\n' :: rest) = some (.value {} text data, '\n' :: rest)

theorem ReadsAs.isLineValue (readsAs : ReadsAs text data) (noReturn : '\r' ∉ text.toList) :
    IsLineValue {} text data where
  starts := by
    cases isText : text.toList with
    | nil =>
      have read := readsAs.reads 1 0 [] (by rw [isText]; exact Nat.zero_lt_one)
      rw [isText] at read
      cases read
    | cons c cs => exact ⟨c, cs, rfl, readsAs.visible c (by rw [isText]; rfl)⟩
  noReturn := noReturn
  before := nofun
  after := .blank nofun
  reads fuel more enough := readsAs.reads fuel 78 more (by omega)

/-- The line of a pair is read with what surrounds its key and its value. -/
theorem pair?_line {written after start : List Char} (isText : IsKeyText written name)
    (blankAfter : ∀ c ∈ after, isBlank c = true) (blankStart : ∀ c ∈ start, isBlank c = true)
    (isValue : IsLineValue decor text data) (before : String) (rest : List Char) :
    pair? before (written ++ (after ++ '=' :: (start ++ (text.toList ++
        ((decor.after.getD "").toList ++ '\n' :: rest))))) =
      some (.pair [] (.spelled name (String.ofList written) before (String.ofList after))
        (.value ⟨some (String.ofList start), decor.after.getD ""⟩ text data), rest) := by
  have noBlanks : ∀ c ∈ ([] : List Char), isBlank c = true := nofun
  have isPath := isText.keyPath?_eq noBlanks blankAfter (c := '=') ⟨rfl, rfl, by decide⟩ before
    (start ++ (text.toList ++ ((decor.after.getD "").toList ++ '\n' :: rest)))
  obtain ⟨c, cs, isCons, visible⟩ := isValue.starts
  have begins : (start ++ (text.toList ++ ((decor.after.getD "").toList ++ '\n' :: rest))).dropWhile
      isBlank = text.toList ++ ((decor.after.getD "").toList ++ '\n' :: rest) := by
    rw [List.dropWhile_append_of_pos blankStart, isCons, List.cons_append,
      List.dropWhile_cons_of_neg (by simp [visible])]
  have isItem := isValue.reads (2 * (text.toList ++ ((decor.after.getD "").toList ++
    '\n' :: rest)).length + 2) rest (by simp; omega)
  rw [List.nil_append, String.ofList_nil, String.append_empty] at isPath
  rw [pair?, isPath]
  simp only [Option.bind_eq_bind, Option.bind_some, begins, isItem, taken_append,
    isValue.after.lineEnd?_eq, String.ofList_toList]
  rfl

/-- A header is read with what surrounds its key and the line. -/
theorem header?_line {written blanks after finish : List Char} (isText : IsKeyText written name)
    (blankBefore : ∀ c ∈ blanks, isBlank c = true) (blankAfter : ∀ c ∈ after, isBlank c = true)
    (isEnd : IsLineEnd finish) (before : String) (rest : List Char) :
    header? before (blanks ++ (written ++ (after ++ ']' :: (finish ++ '\n' :: rest)))) =
      some (.header false ⟨some before, some (String.ofList finish)⟩ []
        (.spelled name (String.ofList written) (String.ofList blanks) (String.ofList after)),
          rest) := by
  have isPath := isText.keyPath?_eq blankBefore blankAfter (c := ']') ⟨rfl, rfl, by decide⟩ ""
    (finish ++ '\n' :: rest)
  rw [String.empty_append] at isPath
  have noElement : (blanks ++ (written ++ (after ++ ']' :: (finish ++ '\n' :: rest)))).head? ≠
      some '[' := by
    cases blanks with
    | nil =>
      obtain ⟨c, cs, rfl, -, -, -, noHeader⟩ := isText.visible
      simpa using noHeader
    | cons b blanks =>
      intro isHead
      cases isHead
      exact absurd (blankBefore '[' List.mem_cons_self) (by decide)
  rw [header?.eq_def]
  split
  rename_i isElement inner isOpen
  split at isOpen
  · rename_i isHeader
    rw [isHeader] at noElement
    exact absurd rfl noElement
  · cases isOpen
    rw [isPath]
    simp only [Option.bind_eq_bind, Option.bind_some, isEnd.lineEnd?_eq]

/-- A header is read before the statements after it. -/
theorem statements?_of_header {fuel : Nat} {cs inside next : List Char} {before : String}
    {statement : Statement} (skipped : skipTrivia? false cs = some ('[' :: inside))
    (isBefore : taken cs ('[' :: inside) = before)
    (read : header? before inside = some (statement, next)) :
    statements? (fuel + 1) cs =
      (statements? fuel next).map fun others => (statement :: others.1, others.2) := by
  simp only [statements?, skipped, isBefore, read, Option.bind_eq_bind, Option.bind_some,
    List.isEmpty_cons, Bool.false_eq_true, if_false]
  cases statements? fuel next <;> rfl

/-- A pair is read before the statements after it. -/
theorem statements?_of_pair {fuel : Nat} {cs inside next : List Char} {before : String} {c : Char}
    {statement : Statement} (skipped : skipTrivia? false cs = some (c :: inside))
    (noHeader : c ≠ '[') (isBefore : taken cs (c :: inside) = before)
    (read : pair? before (c :: inside) = some (statement, next)) :
    statements? (fuel + 1) cs =
      (statements? fuel next).map fun others => (statement :: others.1, others.2) := by
  simp only [statements?, skipped, isBefore, Option.bind_eq_bind, Option.bind_some,
    List.isEmpty_cons, Bool.false_eq_true, if_false]
  split
  · rename_i isHeader
    exact absurd (List.cons.inj isHeader).1 noHeader
  · rw [read, Option.bind_some]
    cases statements? fuel next <;> rfl

/-! ## Pieces of a text -/

/-- A piece of a text that is read as statements, whatever follows it. -/
structure IsPiece (piece : List Char) (statements : List Statement) : Prop where
  noReturn : '\r' ∉ piece
  enough : statements.length ≤ piece.length
  reads : ∀ fuel rest, statements? (fuel + statements.length) (piece ++ rest) =
    (statements? fuel rest).map fun read => (statements ++ read.1, read.2)

namespace IsPiece

theorem nil : IsPiece [] [] where
  noReturn := List.not_mem_nil
  enough := Nat.le_refl 0
  reads fuel rest := by cases isRead : statements? fuel rest <;> simp [isRead]

theorem append (first : IsPiece piece statements) (second : IsPiece others more) :
    IsPiece (piece ++ others) (statements ++ more) where
  noReturn := List.not_mem_append first.noReturn second.noReturn
  enough := by
    rw [List.length_append, List.length_append]
    exact Nat.add_le_add first.enough second.enough
  reads fuel rest := by
    rw [List.length_append, Nat.add_comm statements.length, ← Nat.add_assoc, List.append_assoc,
      first.reads, second.reads, Option.map_map]
    simp only [Function.comp_def, List.append_assoc]

/-- A line is a piece with one statement. -/
theorem of_line (noReturn : '\r' ∉ piece)
    (reads : ∀ fuel rest, statements? (fuel + 1) (piece ++ '\n' :: rest) =
      (statements? fuel rest).map fun read => (statement :: read.1, read.2)) :
    IsPiece (piece ++ ['\n']) [statement] where
  noReturn := List.not_mem_append noReturn (by decide)
  enough := by simp
  reads fuel rest := by
    rw [List.append_assoc]
    exact reads fuel rest

end IsPiece

/-- The line of a pair is a piece. -/
theorem isPiece_pair {before written after start : List Char} (isBefore : IsTrivia before)
    (isText : IsKeyText written name) (blankAfter : ∀ c ∈ after, isBlank c = true)
    (blankStart : ∀ c ∈ start, isBlank c = true) (isValue : IsLineValue decor text data) :
    IsPiece (before ++ (written ++ (after ++ '=' :: (start ++ (text.toList ++
        (decor.after.getD "").toList)))) ++ ['\n'])
      [.pair [] (.spelled name (String.ofList written) (String.ofList before) (String.ofList after))
        (.value ⟨some (String.ofList start), decor.after.getD ""⟩ text data)] := by
  refine .of_line ?_ fun fuel rest => ?_
  · simp only [List.mem_append, List.mem_cons, not_or]
    exact ⟨isBefore.noReturn, isText.noReturn, (isTrivia_of_blanks blankAfter).noReturn, by decide,
      (isTrivia_of_blanks blankStart).noReturn, isValue.noReturn, isValue.after.noReturn⟩
  · have read := pair?_line isText blankAfter blankStart isValue (String.ofList before) rest
    obtain ⟨c, cs, rfl, noFeed, visible, noComment, noHeader⟩ := isText.visible
    simp only [List.append_assoc, List.cons_append] at read ⊢
    refine statements?_of_pair ?_ noHeader (taken_append ..) read
    rw [isBefore.skips, skipTrivia?_visible noFeed visible noComment]

/-- The line of a header is a piece. -/
theorem isPiece_header {before written blanks after finish : List Char} (isBefore : IsTrivia before)
    (isText : IsKeyText written name) (blankBefore : ∀ c ∈ blanks, isBlank c = true)
    (blankAfter : ∀ c ∈ after, isBlank c = true) (isEnd : IsLineEnd finish) :
    IsPiece (before ++ '[' :: (blanks ++ (written ++ (after ++ ']' :: finish))) ++ ['\n'])
      [.header false ⟨some (String.ofList before), some (String.ofList finish)⟩ []
        (.spelled name (String.ofList written) (String.ofList blanks) (String.ofList after))] := by
  refine .of_line ?_ fun fuel rest => ?_
  · simp only [List.mem_append, List.mem_cons, not_or]
    exact ⟨isBefore.noReturn, by decide, (isTrivia_of_blanks blankBefore).noReturn, isText.noReturn,
      (isTrivia_of_blanks blankAfter).noReturn, by decide, isEnd.noReturn⟩
  · have read := header?_line isText blankBefore blankAfter isEnd (String.ofList before) rest
    simp only [List.append_assoc, List.cons_append]
    refine statements?_of_header ?_ (taken_append ..) read
    rw [isBefore.skips, skipTrivia?_visible (by decide) rfl (by decide)]

/-! ## Texts -/

theorem joinLineEnds_of_noReturn {cs : List Char} (noReturn : '\r' ∉ cs) :
    joinLineEnds cs = cs := by
  induction cs with
  | nil => rfl
  | cons c cs ih =>
      obtain ⟨differs, noReturnTail⟩ := not_or.mp (mt List.mem_cons.mpr noReturn)
      rw [joinLineEnds.eq_3 c cs fun _ isReturn => absurd isReturn.symm differs, ih noReturnTail]

/-- No statement begins with a mark of the byte order. -/
theorem statements?_mark (fuel : Nat) (rest : List Char) :
    statements? fuel ('\ufeff' :: rest) = none := by
  cases fuel with
  | zero => rfl
  | succ fuel =>
    rw [statements?, skipTrivia?_visible (by decide) rfl (by decide)]
    rfl

/-- A piece and what ends a document are read. -/
theorem Document.parse?_of_isPiece {trailing : String} (isPiece : IsPiece piece statements)
    (noReturn : '\r' ∉ trailing.toList) (isTrailing : skipTrivia? false trailing.toList = some []) :
    parse? (String.ofList piece ++ trailing) =
      (addPairs? statements []).bind fun pairs =>
        (addTables? 0 statements pairs).map fun entries => { entries, trailing } := by
  have ends (fuel : Nat) : statements? (fuel + 1) trailing.toList = some ([], trailing) := by
    simp [statements?, isTrailing, taken]
  have read : statements? ((piece ++ trailing.toList).length + 1) (piece ++ trailing.toList) =
      some (statements, trailing) := by
    have enough := isPiece.enough
    have fuel : (piece ++ trailing.toList).length + 1 =
        (piece ++ trailing.toList).length - statements.length + 1 + statements.length := by
      rw [List.length_append]
      omega
    rw [fuel, isPiece.reads, ends, Option.map_some, List.append_nil]
  have noMark : (piece ++ trailing.toList).head? ≠ some '\ufeff' := by
    intro isMark
    obtain ⟨rest, isRest⟩ := List.head?_eq_some_iff.mp isMark
    rw [isRest, statements?_mark] at read
    cases read
  unfold parse?
  rw [String.toList_append, String.toList_ofList,
    joinLineEnds_of_noReturn (List.not_mem_append isPiece.noReturn noReturn)]
  dsimp only
  rw [if_neg noMark, read]
  simp only [Option.bind_eq_bind, Option.bind_some]
  cases addPairs? statements [] with
  | none => rfl
  | some pairs => cases isTables : addTables? 0 statements pairs <;> simp [isTables]

end TypedClient.Toml
