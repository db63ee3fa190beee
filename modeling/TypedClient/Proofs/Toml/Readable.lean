/-
# Parts that are read again

A tree that was read from a text knows how each of its parts was written. Every line of it can be
read again as it stands, and so can every header, whatever becomes of the lines around them.
-/

import TypedClient.Proofs.Toml.Again
import TypedClient.Proofs.Toml.Building

namespace TypedClient.Toml

variable {c : Char} {cs rest next : List Char} {before : String} {fuel : Nat} {name : String}
  {key : Key} {path : List Key} {item old new : Item} {decor : Decor} {text : String} {data : Json}
  {entries after : Entries} {statement : Statement} {statements : List Statement}

/-! ## Lines and headers -/

/-- What surrounds a header that is read again. -/
structure IsHeader (key : Key) (decor : Decor) : Prop where
  blank : ∀ before ∈ key.leaf.before, ∀ c ∈ before.toList, isBlank c = true
  before : ∀ before ∈ decor.before, IsTrivia before.toList
  after : IsLineEnd (decor.after.getD "").toList

/-- A table that came up on the way to another has no header of its own. -/
theorem Key.IsStep.isHeader {step : Key} (isStep : step.IsStep) : IsHeader step {} where
  blank := by simp [isStep.leaf]
  before _ isBefore := absurd isBefore (Option.not_mem_none _)
  after := .blank fun _ isIn => absurd isIn List.not_mem_nil

/-- An entry whose lines and headers are read again. Tables in braces and arrays of tables are left
aside. -/
inductive IsReadable : Key × Item → Prop
  | value {key : Key} {decor : Decor} {text : String} {data : Json} (isKey : key.IsReadable)
    (isValue : IsLineValue decor text data) : IsReadable (key, .value decor text data)
  | inlineTable {key : Key} {dotted : Bool} {decor : Decor} {padding : String} {entries : Entries}
    (isKey : key.IsReadable) : IsReadable (key, .inlineTable dotted decor padding entries)
  | table {key : Key} {head : TableHead} {entries : Entries} (isKey : key.IsReadable)
    (isHeader : head.dotted = false → IsHeader key head.decor)
    (inside : ∀ entry ∈ entries, IsReadable entry) : IsReadable (key, .table head entries)
  | tables {key : Key} {elements : List (TableHead × Entries)} (isKey : key.IsReadable) :
    IsReadable (key, .tables elements)

theorem IsReadable.isKey {entry : Key × Item} (readable : IsReadable entry) :
    entry.1.IsReadable := by
  cases readable <;> assumption

/-! ## Trees -/

theorem isReadable_append {last : Key × Item} (readable : ∀ entry ∈ entries, IsReadable entry)
    (isLast : IsReadable last) : ∀ entry ∈ entries ++ [last], IsReadable entry :=
  List.forall_mem_append.mpr ⟨readable, List.forall_mem_singleton.mpr isLast⟩

theorem isReadable_update (sound : entriesSound false entries)
    (found : entries.find? name = some old) (readable : ∀ entry ∈ entries, IsReadable entry)
    (keeps : ∀ key, IsReadable (key, old) → IsReadable (key, new)) :
    ∀ entry ∈ entries.update name fun _ => new, IsReadable entry := by
  obtain ⟨front, key, back, rfl, -, updated, -⟩ := Entries.exists_split sound found
  rw [List.forall_mem_append, List.forall_mem_cons] at readable
  rw [updated, List.forall_mem_append, List.forall_mem_cons]
  exact ⟨readable.1, keeps key readable.2.1, readable.2.2⟩

theorem isReadable_of_find? (readable : ∀ entry ∈ entries, IsReadable entry)
    (found : entries.find? name = some item) : ∃ key, IsReadable (key, item) := by
  obtain ⟨entry, isFound, rfl⟩ := Option.map_eq_some_iff.mp found
  exact ⟨entry.1, readable entry (List.mem_of_find?_eq_some isFound)⟩

theorem IsReadable.inside {head : TableHead} (readable : IsReadable (key, .table head entries)) :
    ∀ entry ∈ entries, IsReadable entry := by
  cases readable
  assumption

/-- A table is readable with what is put into it. -/
theorem IsReadable.fill {head : TableHead} (readable : IsReadable (key, .table head entries))
    (inside : ∀ entry ∈ after, IsReadable entry) : IsReadable (key, .table head after) := by
  cases readable with
  | table isKey isHeader => exact .table isKey isHeader inside

/-- A pair gets into the tree as it was read. -/
theorem isReadable_addPair? (steps : ∀ step ∈ path, step.IsStep) (isItem : IsReadable (key, item))
    (sound : entriesSound false entries) (readable : ∀ entry ∈ entries, IsReadable entry)
    (done : addPair? false path key item entries = some after) :
    ∀ entry ∈ after, IsReadable entry := by
  induction path generalizing entries after with
  | nil =>
    rw [addPair?] at done
    split at done
    · cases done
    · cases done
      exact isReadable_append readable isItem
  | cons step path ih =>
    obtain ⟨isStep, steps⟩ := List.forall_mem_cons.mp steps
    rw [addPair?] at done
    split at done
    · obtain ⟨inside, added, done⟩ := Option.bind_eq_some_iff.mp done
      cases done
      have nothing : entriesSound false [] := trivial
      exact isReadable_append readable (.table isStep.isReadable
        (fun notDotted => by cases notDotted) (ih steps nothing (List.forall_mem_nil _) added))
    · rename_i head old found
      split at done
      · cases done
      · obtain ⟨inside, added, done⟩ := Option.bind_eq_some_iff.mp done
        cases done
        have soundOld : Item.IsSound false (.table head old) := sound_of_find? sound found
        obtain ⟨_, readableOld⟩ := isReadable_of_find? readable found
        have readableInside := ih steps soundOld.2 readableOld.inside added
        exact isReadable_update sound found readable fun _ isOld => isOld.fill readableInside
    · rename_i dotted decor padding old found
      rw [Bool.not_false, Bool.or_true, if_pos rfl] at done
      cases done
    · cases done

/-- A table gets into the tree as its header was read, with what fills it. -/
theorem isReadable_addTable? {isElement : Bool} {head : TableHead}
    {fill : Entries → Option Entries} (steps : ∀ step ∈ path, step.IsStep)
    (isKey : key.IsReadable) (isHeader : IsHeader key head.decor)
    (fills : ∀ before after, entriesSound false before → (∀ entry ∈ before, IsReadable entry) →
      fill before = some after → ∀ entry ∈ after, IsReadable entry)
    (sound : entriesSound false entries) (readable : ∀ entry ∈ entries, IsReadable entry)
    (done : addTable? isElement head key fill path entries = some after) :
    ∀ entry ∈ after, IsReadable entry := by
  induction path generalizing entries after with
  | nil =>
    rw [addTable?.eq_def] at done
    dsimp only at done
    split at done
    · obtain ⟨inside, isFilled, done⟩ := Option.bind_eq_some_iff.mp done
      cases done
      exact isReadable_append readable (.table isKey (fun _ => isHeader)
        (fills [] inside trivial (List.forall_mem_nil _) isFilled))
    · rename_i head old found
      split at done
      · cases done
      · obtain ⟨inside, isFilled, done⟩ := Option.bind_eq_some_iff.mp done
        cases done
        have soundOld : Item.IsSound false (.table head old) := sound_of_find? sound found
        obtain ⟨_, readableOld⟩ := isReadable_of_find? readable found
        refine isReadable_append (fun entry isEntry => ?_) (.table isKey (fun _ => isHeader)
          (fills old inside soundOld.2 readableOld.inside isFilled))
        exact readable entry (List.mem_of_mem_filter isEntry)
    · obtain ⟨inside, isFilled, done⟩ := Option.bind_eq_some_iff.mp done
      cases done
      exact isReadable_append readable (.tables isKey)
    · rename_i elements found
      obtain ⟨inside, isFilled, done⟩ := Option.bind_eq_some_iff.mp done
      cases done
      exact isReadable_update sound found readable fun _ isOld => .tables isOld.isKey
    · cases done
  | cons step path ih =>
    obtain ⟨isStep, steps⟩ := List.forall_mem_cons.mp steps
    rw [addTable?] at done
    split at done
    · obtain ⟨inside, added, done⟩ := Option.bind_eq_some_iff.mp done
      cases done
      have nothing : entriesSound false [] := trivial
      exact isReadable_append readable (.table isStep.isReadable (fun _ => isStep.isHeader)
        (ih steps nothing (List.forall_mem_nil _) added))
    · rename_i head old found
      obtain ⟨inside, added, done⟩ := Option.bind_eq_some_iff.mp done
      cases done
      have soundOld : Item.IsSound false (.table head old) := sound_of_find? sound found
      obtain ⟨_, readableOld⟩ := isReadable_of_find? readable found
      have readableInside := ih steps soundOld.2 readableOld.inside added
      exact isReadable_update sound found readable fun _ isOld => isOld.fill readableInside
    · rename_i elements found
      obtain ⟨last, -, done⟩ := Option.bind_eq_some_iff.mp done
      obtain ⟨inside, -, done⟩ := Option.bind_eq_some_iff.mp done
      cases done
      exact isReadable_update sound found readable fun _ isOld => .tables isOld.isKey
    · cases done

/-! ## Statements -/

/-- A statement whose parts are read again. -/
def Statement.IsReadable : Statement → Prop
  | .header _ decor path key =>
    (∀ step ∈ path, step.IsStep) ∧ key.IsReadable ∧ IsHeader key decor
  | .pair path key item => (∀ step ∈ path, step.IsStep) ∧ Toml.IsReadable (key, item)

theorem isReadable_addPairs? (sound : ∀ statement ∈ statements, statement.IsSound)
    (readable : ∀ statement ∈ statements, statement.IsReadable)
    (soundEntries : entriesSound false entries)
    (readableEntries : ∀ entry ∈ entries, IsReadable entry)
    (done : addPairs? statements entries = some after) : ∀ entry ∈ after, IsReadable entry := by
  induction statements generalizing entries with
  | nil =>
    cases done
    exact readableEntries
  | cons statement rest ih =>
    obtain ⟨soundHead, soundRest⟩ := List.forall_mem_cons.mp sound
    obtain ⟨readableHead, readableRest⟩ := List.forall_mem_cons.mp readable
    cases statement with
    | header isElement decor path key =>
      cases done
      exact readableEntries
    | pair path key item =>
      obtain ⟨middle, added, done⟩ := Option.bind_eq_some_iff.mp done
      obtain ⟨steps, isItem⟩ := readableHead
      have grows : Grows false [] entries middle _ := Grows.addPair? soundHead soundEntries added
      exact ih soundRest readableRest grows.sound
        (isReadable_addPair? steps isItem soundEntries readableEntries added) done

theorem isReadable_addTables? {position : Nat} (sound : ∀ statement ∈ statements, statement.IsSound)
    (readable : ∀ statement ∈ statements, statement.IsReadable)
    (soundEntries : entriesSound false entries)
    (readableEntries : ∀ entry ∈ entries, IsReadable entry)
    (done : addTables? position statements entries = some after) :
    ∀ entry ∈ after, IsReadable entry := by
  induction statements generalizing position entries with
  | nil =>
    cases done
    exact readableEntries
  | cons statement rest ih =>
    obtain ⟨-, soundRest⟩ := List.forall_mem_cons.mp sound
    obtain ⟨readableHead, readableRest⟩ := List.forall_mem_cons.mp readable
    cases statement with
    | header isElement decor path key =>
      obtain ⟨middle, added, done⟩ := Option.bind_eq_some_iff.mp done
      obtain ⟨steps, isKey, isHeader⟩ := readableHead
      have grows : Grows false [] entries middle _ := Grows.addTable? ⟨rfl, rfl⟩
        (fun _ _ _ soundInside => Grows.addPairs? soundRest soundInside) soundEntries added
      refine ih soundRest readableRest grows.sound ?_ done
      exact isReadable_addTable? steps isKey isHeader
        (fun _ _ => isReadable_addPairs? soundRest readableRest) soundEntries readableEntries added
    | pair path key item => exact ih soundRest readableRest soundEntries readableEntries done

/-! ## Texts -/

theorem isReadable_of_header? (isBefore : IsTrivia before.toList)
    (read : header? before cs = some (statement, next)) : statement.IsReadable := by
  rw [header?.eq_def] at read
  split at read
  rename_i isElement inner isOpen
  obtain ⟨⟨path, key, left⟩, readPath, read⟩ := Option.bind_eq_some_iff.mp read
  obtain ⟨steps, ⟨blanks, finish, isText, blankBefore, blankAfter, isLeaf⟩, -⟩ :=
    keyPath?_again readPath
  rw [String.empty_append] at isLeaf
  -- Whichever bracket closes the header, the line ends behind it.
  have ends {line : List Char} (read : (lineEnd? line).bind (fun result =>
      some (Statement.header isElement ⟨some before, some result.1⟩ path key, result.2)) =
        some (statement, next)) : statement.IsReadable := by
    obtain ⟨⟨after, next⟩, isEnd, read⟩ := Option.bind_eq_some_iff.mp read
    cases read
    refine ⟨steps, ⟨isText, ?_, ?_⟩, ?_, ?_, isLineEnd_of_lineEnd? isEnd⟩
    · simpa [isLeaf] using isTrivia_of_blanks blankBefore
    · simpa [isLeaf] using blankAfter
    · simpa [isLeaf] using blankBefore
    · simpa using isBefore
  dsimp only at read
  split at read
  · exact ends read
  · exact ends read
  · cases read

theorem isReadable_of_pair? (isBefore : IsTrivia before.toList)
    (read : pair? before cs = some (statement, next)) : statement.IsReadable := by
  rw [pair?] at read
  obtain ⟨⟨path, key, left⟩, readPath, read⟩ := Option.bind_eq_some_iff.mp read
  dsimp only at read
  split at read
  · rename_i line
    obtain ⟨⟨item, left⟩, readItem, read⟩ := Option.bind_eq_some_iff.mp read
    obtain ⟨⟨after, next⟩, isEnd, read⟩ := Option.bind_eq_some_iff.mp read
    cases read
    obtain ⟨steps, ⟨blanks, finish, isText, blankBefore, blankAfter, isLeaf⟩, -⟩ :=
      keyPath?_again readPath
    have isKey : key.IsReadable := by
      refine ⟨isText, ?_, ?_⟩
      · simpa [isLeaf] using isBefore.append (isTrivia_of_blanks blankBefore)
      · simpa [isLeaf] using blankAfter
    refine ⟨steps, ?_⟩
    obtain ⟨piece, isStart, isValue⟩ := (readsAgain _).value readItem
    have isItem : item.IsValue := by
      obtain ⟨_, -, isText⟩ := (readsValues _).value readItem
      exact isText.isValue
    cases item with
    | value decor text data =>
      obtain ⟨-, isSpelled⟩ := isValue.spelled decor text data rfl
      have isPiece : text.toList = piece := by rw [isSpelled, String.toList_ofList]
      have isEnding := isLineEnd_of_lineEnd? isEnd
      refine .value isKey ⟨?_, isPiece ▸ isValue.noReturn, ?_, isEnding, fun fuel more enough => ?_⟩
      · obtain ⟨c, cs, isCons⟩ := List.exists_cons_of_ne_nil isValue.nonempty
        have visible : ∀ c ∈ (line.dropWhile isBlank).head?, isBlank c = false :=
          head?_dropWhile_eq_false
        rw [isStart, isCons] at visible
        exact ⟨c, cs, isPiece.trans isCons, visible c rfl⟩
      · simp only [taken_dropWhile, Option.mem_def, Option.some.injEq, forall_eq',
          String.toList_ofList]
        exact fun c => blank_of_mem_takeWhile
      · rw [isPiece] at enough ⊢
        have again := isValue.reads fuel _ enough (isEnding.endsValue more)
        obtain ⟨rfl, rfl⟩ := isValue.spelled decor text data rfl
        exact again
    | inlineTable => exact .inlineTable isKey
    | table | tables => cases isItem
  · cases read

/-- The statements of a text are read again, and so is what stands behind the last. -/
theorem isReadable_of_statements? {trailing : String}
    (read : statements? fuel cs = some (statements, trailing)) :
    (∀ statement ∈ statements, statement.IsReadable) ∧ '\r' ∉ trailing.toList ∧
      skipTrivia? false trailing.toList = some [] := by
  induction fuel generalizing cs statements with
  | zero => cases read
  | succ fuel ih =>
    rw [statements?] at read
    obtain ⟨start, skipped, read⟩ := Option.bind_eq_some_iff.mp read
    obtain ⟨-, trivia, whole, noReturn, again⟩ := skipTrivia?_again skipped
    dsimp only at read
    rw [taken_of_eq whole] at read
    split at read
    · rename_i isEnd
      cases read
      obtain rfl : start = [] := List.isEmpty_iff.mp isEnd
      rw [List.append_nil] at whole
      rw [String.toList_ofList, ← whole]
      exact ⟨List.forall_mem_nil _, whole ▸ noReturn, skipped⟩
    · rename_i hasStart
      have isBefore : IsTrivia (String.ofList trivia).toList := by
        rw [String.toList_ofList]
        exact ⟨noReturn, again (by simpa using hasStart)⟩
      split at read
      · obtain ⟨⟨statement, next⟩, readHeader, read⟩ := Option.bind_eq_some_iff.mp read
        obtain ⟨⟨others, trailing⟩, readOthers, read⟩ := Option.bind_eq_some_iff.mp read
        cases read
        obtain ⟨areReadable, isTrailing⟩ := ih readOthers
        exact ⟨List.forall_mem_cons.mpr ⟨isReadable_of_header? isBefore readHeader, areReadable⟩,
          isTrailing⟩
      · obtain ⟨⟨statement, next⟩, readPair, read⟩ := Option.bind_eq_some_iff.mp read
        obtain ⟨⟨others, trailing⟩, readOthers, read⟩ := Option.bind_eq_some_iff.mp read
        cases read
        obtain ⟨areReadable, isTrailing⟩ := ih readOthers
        exact ⟨List.forall_mem_cons.mpr ⟨isReadable_of_pair? isBefore readPair, areReadable⟩,
          isTrailing⟩

/-- Entries of a tree whose parts are read again. -/
structure AreReadable (entries : Entries) : Prop where
  sound : entriesSound false entries
  each : ∀ entry ∈ entries, IsReadable entry

/-- A document whose parts are read again. -/
structure Document.IsReadable (document : Document) : Prop where
  entries : AreReadable document.entries
  noReturn : '\r' ∉ document.trailing.toList
  trailing : skipTrivia? false document.trailing.toList = some []

theorem Document.isReadable_of_parse? {document : Document}
    (parsed : parse? text = some document) : document.IsReadable := by
  have sound := (comments_of_parse? parsed).1
  rw [parse?] at parsed
  obtain ⟨⟨statements, trailing⟩, isRead, parsed⟩ := Option.bind_eq_some_iff.mp parsed
  obtain ⟨pairs, addedPairs, parsed⟩ := Option.bind_eq_some_iff.mp parsed
  obtain ⟨entries, addedTables, parsed⟩ := Option.bind_eq_some_iff.mp parsed
  cases parsed
  obtain ⟨soundStatements, -⟩ := statements?_consumed isRead
  obtain ⟨areReadable, noReturn, isTrailing⟩ := isReadable_of_statements? isRead
  have grows : Grows false [] [] pairs _ := Grows.addPairs? soundStatements trivial addedPairs
  have nothing : entriesSound false [] := trivial
  have readablePairs := isReadable_addPairs? soundStatements areReadable nothing
    (List.forall_mem_nil _) addedPairs
  exact ⟨⟨sound, isReadable_addTables? soundStatements areReadable grows.sound readablePairs
    addedTables⟩, noReturn, isTrailing⟩

end TypedClient.Toml
