/-
# Plain documents

A document that was made from nothing has one form: tables under headers of one bare key, an
empty line between them, and in each table a pair in every line. Such a document is read as
it was meant, the reader adds the surroundings that the printer puts in by default, and
printing what was read gives the same text again.
-/

import TypedClient.Proofs.Toml.Lines

namespace TypedClient.Toml

/-! ## Documents -/

/-- A bare key as it is read, with what surrounds it. -/
def Key.bare (name before after : String) : Key :=
  { name, written := some name, leaf := ⟨some before, some after⟩, dotted := ⟨some "", some ""⟩ }

/-- A pair in one line: its name, the text of its value and what that stands for. -/
structure PlainPair where
  name : String
  text : String
  data : Json

/-- A table with a header, and its pairs. -/
structure PlainTable where
  name : String
  pairs : List PlainPair

namespace PlainPair

/-- The line of a pair. -/
def line (pair : PlainPair) : List Char :=
  pair.name.toList ++ (' ' :: '=' :: ' ' :: (pair.text.toList ++ ['\n']))

/-- A pair whose line is read back. -/
structure IsReadable (pair : PlainPair) : Prop where
  isBare : IsBare pair.name
  readsAs : ReadsAs pair.text pair.data
  noReturn : '\r' ∉ pair.text.toList

/-- The pair as it is read. -/
def statement (pair : PlainPair) : Statement :=
  .pair [] (.bare pair.name "" " ") (.value ⟨some " ", some ""⟩ pair.text pair.data)

end PlainPair

namespace PlainTable

/-- The lines of a table. -/
def lines (table : PlainTable) : List Char :=
  '[' :: (table.name.toList ++ ']' :: '\n' :: table.pairs.flatMap PlainPair.line)

/-- A table whose lines are read back. -/
structure IsReadable (table : PlainTable) : Prop where
  isBare : IsBare table.name
  pairs : ∀ pair ∈ table.pairs, pair.IsReadable
  distinct : (table.pairs.map (·.name)).Nodup

/-- The text of tables, the first after `before` and the others after an empty line. -/
def textFrom (before : List Char) : List PlainTable → List Char
  | [] => []
  | table :: rest => before ++ (table.lines ++ textFrom ['\n'] rest)

/-- The statements of tables. -/
def statementsFrom (before : String) : List PlainTable → List Statement
  | [] => []
  | table :: rest =>
    .header false ⟨some before, some ""⟩ [] (.bare table.name "" "") ::
      (table.pairs.map PlainPair.statement ++ statementsFrom "\n" rest)

end PlainTable

/-- A bare name is spelled as it is. -/
theorem Key.spelled_bare (name before after : String) :
    Key.spelled name (String.ofList name.toList) before after = .bare name before after := by
  rw [Key.spelled, String.ofList_toList, Key.bare]

/-- The line of a pair is read, with blanks around the sign. -/
theorem isPiece_line {pair : PlainPair} (readable : pair.IsReadable) :
    IsPiece pair.line [pair.statement] := by
  have isPiece := isPiece_pair isTrivia_empty (isKeyText_of_isBare readable.isBare)
    isBlank_of_mem_space isBlank_of_mem_space (readable.readsAs.isLineValue readable.noReturn)
  rw [Key.spelled_bare] at isPiece
  simpa [PlainPair.line, PlainPair.statement] using isPiece

theorem isPiece_lines {pairs : List PlainPair} (readable : ∀ pair ∈ pairs, pair.IsReadable) :
    IsPiece (pairs.flatMap PlainPair.line) (pairs.map PlainPair.statement) := by
  induction pairs with
  | nil => exact .nil
  | cons pair pairs ih =>
      obtain ⟨readableHead, readableTail⟩ := List.forall_mem_cons.mp readable
      exact (isPiece_line readableHead).append (ih readableTail)

/-- A header is read with the empty line before it, if there is one. -/
theorem isPiece_bareHeader {name : String} (isBare : IsBare name) {before : List Char}
    (isBefore : before = [] ∨ before = ['\n']) :
    IsPiece (before ++ '[' :: (name.toList ++ [']', '\n']))
      [.header false ⟨some (String.ofList before), some ""⟩ [] (.bare name "" "")] := by
  have isTrivia : IsTrivia before := by
    rcases isBefore with rfl | rfl
    · exact isTrivia_empty
    · exact isTrivia_feed
  have isPiece := isPiece_header isTrivia (isKeyText_of_isBare isBare) isBlank_of_mem_empty
    isBlank_of_mem_empty (.blank isBlank_of_mem_empty)
  rw [Key.spelled_bare] at isPiece
  simpa using isPiece

theorem isPiece_textFrom {tables : List PlainTable}
    (readable : ∀ table ∈ tables, table.IsReadable) {before : List Char}
    (isBefore : before = [] ∨ before = ['\n']) :
    IsPiece (PlainTable.textFrom before tables)
      (PlainTable.statementsFrom (String.ofList before) tables) := by
  induction tables generalizing before with
  | nil => exact .nil
  | cons table tables ih =>
      obtain ⟨readableHead, readableTail⟩ := List.forall_mem_cons.mp readable
      have text : PlainTable.textFrom before (table :: tables) =
          before ++ '[' :: (table.name.toList ++ [']', '\n']) ++
            (table.pairs.flatMap PlainPair.line ++ PlainTable.textFrom ['\n'] tables) := by
        simp [PlainTable.textFrom, PlainTable.lines]
      rw [text]
      exact (isPiece_bareHeader readableHead.isBare isBefore).append
        ((isPiece_lines readableHead.pairs).append (ih readableTail (.inr rfl)))

/-! ## Trees -/

/-- Whether keys and values have the surroundings they were read with. -/
structure Surroundings where
  keys : Bool
  values : Bool

namespace PlainPair

/-- The entry of a pair. -/
def entry (surroundings : Surroundings) (pair : PlainPair) : Key × Item :=
  (if surroundings.keys then .bare pair.name "" " " else { name := pair.name },
    .value (if surroundings.values then ⟨some " ", some ""⟩ else {}) pair.text pair.data)

end PlainPair

namespace PlainTable

/-- What is known of a table: when it is read, its place and what stands before its header. -/
def head (surroundings : Surroundings) (position : Nat) (before : String) : TableHead :=
  if surroundings.keys then { decor := ⟨some before, some ""⟩, position := some position } else {}

/-- The entry of a table. -/
def entry (surroundings : Surroundings) (position : Nat) (before : String) (table : PlainTable) :
    Key × Item :=
  (if surroundings.keys then .bare table.name "" "" else { name := table.name },
    .table (head surroundings position before) (table.pairs.map (·.entry surroundings)))

/-- The entries of tables. -/
def entriesFrom (surroundings : Surroundings) (position : Nat) (before : String) :
    List PlainTable → Entries
  | [] => []
  | table :: rest =>
    table.entry surroundings position before ::
      entriesFrom surroundings (position + 1) "\n" rest

/-- The document of tables. -/
def document (surroundings : Surroundings) (tables : List PlainTable) : Document :=
  { entries := entriesFrom surroundings 1 "" tables }

end PlainTable

theorem find?_eq_none {name : String} {entries : Entries}
    (isNew : name ∉ entries.map (·.1.name)) : Entries.find? name entries = none := by
  rw [Entries.find?, Option.map_eq_none_iff, List.find?_eq_none]
  intro entry isEntry isName
  exact isNew (eq_of_beq isName ▸ List.mem_map_of_mem isEntry)

/-- The statements that pairs are read from. -/
def pairStatements (pairs : Entries) : List Statement :=
  pairs.map fun entry => .pair [] entry.1 entry.2

/-- No pair stands in front of the statements. -/
def BeginsTable (statements : List Statement) : Prop :=
  ∀ path key item, statements.head? ≠ some (.pair path key item)

/-- Pairs of new names are added in order. -/
theorem addPairs?_statements {pairs entries : Entries} {rest : List Statement}
    (ends : BeginsTable rest) (distinct : ((entries ++ pairs).map (·.1.name)).Nodup) :
    addPairs? (pairStatements pairs ++ rest) entries = some (entries ++ pairs) := by
  induction pairs generalizing entries with
  | nil =>
      rw [List.append_nil]
      match rest with
      | [] => rfl
      | .header .. :: rest => rfl
      | .pair path key item :: rest => exact absurd rfl (ends path key item)
  | cons pair pairs ih =>
      obtain ⟨key, item⟩ := pair
      have isNew : key.name ∉ entries.map (·.1.name) := fun member => by
        rw [List.map_append] at distinct
        exact (List.nodup_append.mp distinct).2.2 _ member _ List.mem_cons_self rfl
      have added : addPair? false [] key item entries = some (entries ++ [(key, item)]) := by
        simp [addPair?, find?_eq_none isNew]
      rw [List.append_cons] at distinct ⊢
      rw [pairStatements, List.map_cons, List.cons_append, addPairs?, added]
      exact ih distinct

theorem addTables?_statements (position : Nat) (pairs : Entries) (rest : List Statement)
    (entries : Entries) :
    addTables? position (pairStatements pairs ++ rest) entries =
      addTables? position rest entries := by
  induction pairs with
  | nil => rfl
  | cons pair pairs ih => exact ih

/-- A header and the statements of pairs build a table, unless its name is taken. -/
theorem addTables?_header {pairs entries : Entries} {key : Key} {rest : List Statement}
    (isNew : key.name ∉ entries.map (·.1.name)) (distinct : (pairs.map (·.1.name)).Nodup)
    (ends : BeginsTable rest) (position : Nat) (decor : Decor) :
    addTables? position (.header false decor [] key :: (pairStatements pairs ++ rest)) entries =
      addTables? (position + 1) rest
        (entries ++ [(key, .table { decor, position := some (position + 1) } pairs)]) := by
  have fills : addPairs? (pairStatements pairs ++ rest) [] = some pairs :=
    addPairs?_statements ends distinct
  have isTable : addTable? false { decor, position := some (position + 1) } key
      (addPairs? (pairStatements pairs ++ rest)) [] entries =
      some (entries ++ [(key, .table { decor, position := some (position + 1) } pairs)]) := by
    simp [addTable?, find?_eq_none isNew, fills]
  rw [addTables?, isTable]
  exact addTables?_statements (position + 1) pairs rest _

theorem map_statement (pairs : List PlainPair) :
    pairs.map PlainPair.statement = pairStatements (pairs.map (·.entry ⟨true, true⟩)) := by
  rw [pairStatements, List.map_map]
  rfl

theorem map_name_entry (pairs : List PlainPair) :
    (pairs.map (·.entry ⟨true, true⟩)).map (·.1.name) = pairs.map (·.name) := by
  rw [List.map_map]
  rfl

theorem beginsTable_statementsFrom (before : String) (tables : List PlainTable) :
    BeginsTable (PlainTable.statementsFrom before tables) := by
  intro path key item
  cases tables <;> simp [PlainTable.statementsFrom]

/-- The statements of tables build the tables. -/
theorem addTables?_tables {tables : List PlainTable}
    (readable : ∀ table ∈ tables, table.IsReadable) (position : Nat) (before : String)
    {entries : Entries}
    (distinct : (entries.map (·.1.name) ++ tables.map (·.name)).Nodup) :
    addTables? position (PlainTable.statementsFrom before tables) entries =
      some (entries ++ PlainTable.entriesFrom ⟨true, true⟩ (position + 1) before tables) := by
  induction tables generalizing position before entries with
  | nil => simp [PlainTable.statementsFrom, PlainTable.entriesFrom, addTables?]
  | cons table tables ih =>
      obtain ⟨readableHead, readableTail⟩ := List.forall_mem_cons.mp readable
      have isNew : (Key.bare table.name "" "").name ∉ entries.map (·.1.name) := fun member =>
        (List.nodup_append.mp distinct).2.2 _ member _ List.mem_cons_self rfl
      have distinctPairs := readableHead.distinct
      rw [← map_name_entry] at distinctPairs
      rw [PlainTable.statementsFrom, map_statement,
        addTables?_header isNew distinctPairs (beginsTable_statementsFrom "\n" tables)]
      refine (ih readableTail _ _ ?_).trans ?_
      · simpa [Key.bare] using distinct
      · simp [PlainTable.entriesFrom, PlainTable.entry, PlainTable.head]

/-! ## Reading and printing -/

/-- The text of plain tables is read as these tables. -/
theorem parse?_textFrom {tables : List PlainTable}
    (readable : ∀ table ∈ tables, table.IsReadable) (distinct : (tables.map (·.name)).Nodup) :
    Document.parse? (String.ofList (PlainTable.textFrom [] tables)) =
      some (PlainTable.document ⟨true, true⟩ tables) := by
  have noPairs : addPairs? (PlainTable.statementsFrom "" tables) [] = some [] := by
    cases tables <;> rfl
  have noTrailing : '\r' ∉ "".toList := List.not_mem_nil
  have read := Document.parse?_of_isPiece (isPiece_textFrom readable (.inl rfl)) noTrailing rfl
  rw [String.append_empty, String.ofList_nil, noPairs, Option.bind_some,
    addTables?_tables readable 0 "" (by simpa using distinct)] at read
  exact read

section Printing

variable {surroundings : Surroundings}

theorem dotted_head (position : Nat) (before : String) :
    (PlainTable.head surroundings position before).dotted = false := by
  unfold PlainTable.head
  split <;> rfl

theorem implicit_head (position : Nat) (before : String) :
    (PlainTable.head surroundings position before).implicit = false := by
  unfold PlainTable.head
  split <;> rfl

/-- A bare key that stands alone is printed with what surrounds it, by default or as read. -/
theorem pathText_key (name before after : String) (keys : Bool) :
    pathText before after [if keys then .bare name before after else { name := name }] =
      before ++ name ++ after := by
  cases keys <;> simp [pathText, Decor.wrap, Key.text, Key.bare, String.intercalate] <;> rfl

theorem entryLines_pairs (pairs : List PlainPair) :
    entryLines [] (pairs.map (·.entry surroundings)) = pairs.map fun pair =>
      ⟨[(pair.entry surroundings).1],
        if surroundings.values then ⟨some " ", some ""⟩ else {}, pair.text⟩ := by
  induction pairs with
  | nil => rfl
  | cons pair pairs ih =>
      rw [List.map_cons, PlainPair.entry, entryLines, ih]
      rfl

/-- Values are printed line by line. -/
theorem toList_linesText (lines : List ValueLine) :
    (linesText lines).toList = lines.flatMap fun line => (linesText [line]).toList := by
  simp [linesText, List.flatMap_map]

/-- The lines of pairs are printed. -/
theorem linesText_pairs (pairs : List PlainPair) :
    (linesText (entryLines [] (pairs.map (·.entry surroundings)))).toList =
      pairs.flatMap PlainPair.line := by
  have printed (pair : PlainPair) : (linesText [⟨[(pair.entry surroundings).1],
      if surroundings.values then (⟨some " ", some ""⟩ : Decor) else {}, pair.text⟩]).toList =
        pair.line := by
    simp only [linesText, List.map_cons, List.map_nil, PlainPair.entry, pathText_key]
    cases surroundings.values <;> simp [Decor.wrap, PlainPair.line]
  rw [entryLines_pairs, toList_linesText, List.flatMap_map]
  simp only [printed]

/-- A table with a header is printed line by line. -/
theorem Section.toList_text {entry : Section} (notImplicit : entry.head.implicit = false)
    (first : Bool) :
    (entry.text first).toList = ({ entry with lines := [] }.text first).toList ++
      entry.lines.flatMap fun line => (linesText [line]).toList := by
  rw [← toList_linesText]
  simp [Section.text, Section.hasHeader, notImplicit, linesText]

theorem entryLines_tables (position : Nat) (before : String) (tables : List PlainTable) :
    entryLines [] (PlainTable.entriesFrom surroundings position before tables) = [] := by
  induction tables generalizing position before with
  | nil => rfl
  | cons table tables ih =>
      rw [PlainTable.entriesFrom, PlainTable.entry, entryLines, ih, Item.valueLines, dotted_head]
      rfl

/-- The sections of tables. -/
def PlainTable.sectionsFrom (surroundings : Surroundings) (position : Nat) (before : String) :
    List PlainTable → List Section
  | [] => []
  | table :: rest =>
    ⟨[(table.entry surroundings position before).1], head surroundings position before, false,
        entryLines [] (table.pairs.map (·.entry surroundings))⟩ ::
      sectionsFrom surroundings (position + 1) "\n" rest

theorem entrySections_pairs (path : List Key) (pairs : List PlainPair) :
    entrySections path (pairs.map (·.entry surroundings)) = [] := by
  induction pairs with
  | nil => rfl
  | cons pair pairs ih =>
      rw [List.map_cons, PlainPair.entry, entrySections, ih]
      rfl

theorem entrySections_tables (position : Nat) (before : String) (tables : List PlainTable) :
    entrySections [] (PlainTable.entriesFrom surroundings position before tables) =
      PlainTable.sectionsFrom surroundings position before tables := by
  induction tables generalizing position before with
  | nil => rfl
  | cons table tables ih =>
      rw [PlainTable.entriesFrom, PlainTable.entry, entrySections, ih, Item.sections, dotted_head,
        entrySections_pairs]
      rfl

/-- Tables are placed in their order. -/
theorem place_sectionsFrom (surroundings : Surroundings) (last position : Nat) (before : String)
    (tables : List PlainTable) (ordered : last ≤ position) :
    (place last (PlainTable.sectionsFrom surroundings position before tables)).Pairwise
        (fun a b => a.1 ≤ b.1) ∧
      ∀ placed ∈ place last (PlainTable.sectionsFrom surroundings position before tables),
        last ≤ placed.1 := by
  induction tables generalizing last position before with
  | nil => exact ⟨.nil, nofun⟩
  | cons table tables ih =>
      cases keys : surroundings.keys with
      | true =>
          have place : (PlainTable.head surroundings position before).position.getD last =
              position := by
            simp [PlainTable.head, keys]
          obtain ⟨sorted, above⟩ := ih position (position + 1) "\n" (Nat.le_succ position)
          simp only [PlainTable.sectionsFrom, TypedClient.Toml.place, place, List.pairwise_cons,
            List.forall_mem_cons]
          exact ⟨⟨above, sorted⟩, ordered, fun placed isPlaced =>
            Nat.le_trans ordered (above placed isPlaced)⟩
      | false =>
          have place : (PlainTable.head surroundings position before).position.getD last =
              last := by
            simp [PlainTable.head, keys]
          obtain ⟨sorted, above⟩ := ih last (position + 1) "\n" (Nat.le_succ_of_le ordered)
          simp only [PlainTable.sectionsFrom, TypedClient.Toml.place, place, List.pairwise_cons,
            List.forall_mem_cons]
          exact ⟨⟨above, sorted⟩, Nat.le_refl last, above⟩

theorem map_place (last : Nat) (sections : List Section) :
    (place last sections).map (·.2) = sections := by
  induction sections generalizing last with
  | nil => rfl
  | cons entry rest ih => rw [place, List.map_cons, ih]

/-- The text of a table under its header. -/
theorem text_section (position : Nat) (first : Bool) (table : PlainTable) :
    (Section.text first ⟨[(table.entry surroundings position (if first then "" else "\n")).1],
        PlainTable.head surroundings position (if first then "" else "\n"), false,
        entryLines [] (table.pairs.map (·.entry surroundings))⟩).toList =
      (if first then [] else ['\n']) ++ table.lines := by
  have wraps (header : String) :
      (PlainTable.head surroundings position (if first then "" else "\n")).decor.wrap
        (if first then "" else "\n") "" header = (if first then "" else "\n") ++ header := by
    cases keys : surroundings.keys <;> simp [PlainTable.head, keys, Decor.wrap]
  unfold Section.text Section.hasHeader
  simp only [implicit_head, PlainTable.entry, pathText_key, wraps, Bool.not_false, Bool.or_true,
    Bool.true_or, if_true, Bool.false_eq_true, if_false]
  cases first <;> simp [linesText_pairs, PlainTable.lines]

/-- The text of tables. -/
theorem sectionsText_tables (surroundings : Surroundings) (position : Nat) (first : Bool)
    (tables : List PlainTable) :
    (sectionsText first (PlainTable.sectionsFrom surroundings position
        (if first then "" else "\n") tables)).toList =
      PlainTable.textFrom (if first then [] else ['\n']) tables := by
  induction tables generalizing position first with
  | nil => rfl
  | cons table tables ih =>
      have hasHeader : Section.hasHeader
          ⟨[(table.entry surroundings position (if first then "" else "\n")).1],
            PlainTable.head surroundings position (if first then "" else "\n"), false,
            entryLines [] (table.pairs.map (·.entry surroundings))⟩ = true := by
        simp [Section.hasHeader, implicit_head]
      have rest := ih (position + 1) false
      simp only [Bool.false_eq_true, if_false] at rest
      rw [PlainTable.sectionsFrom, sectionsText, hasHeader, Bool.not_true, Bool.and_false,
        String.toList_append, text_section, rest, PlainTable.textFrom, List.append_assoc]

/-- However plain tables came about, they are printed as their text. -/
theorem text_document (tables : List PlainTable) :
    (PlainTable.document surroundings tables).text =
      String.ofList (PlainTable.textFrom [] tables) := by
  have sorted := (place_sectionsFrom surroundings 0 1 "" tables (Nat.zero_le 1)).1
  have unmoved : (place 0 (PlainTable.sectionsFrom surroundings 1 "" tables)).mergeSort
      (fun a b => decide (a.1 ≤ b.1)) =
      place 0 (PlainTable.sectionsFrom surroundings 1 "" tables) :=
    List.mergeSort_of_pairwise (sorted.imp decide_eq_true)
  have printed := sectionsText_tables surroundings 1 true tables
  rw [← String.toList_inj, String.toList_ofList]
  unfold Document.text PlainTable.document
  simp only [entryLines_tables, entrySections_tables, unmoved, map_place, List.isEmpty_nil]
  simpa [linesText] using printed

end Printing

end TypedClient.Toml
