/-
# Flat documents

A flat document has values and, under headers of their own, tables of values. Its text is read as a
document that holds the same, whatever was edited in it before: each line and each header is read
again, and though tables may change places on the way, they keep their entries.
-/

import TypedClient.Proofs.Toml.Readable
import Mathlib.Data.List.Perm.Basic

namespace TypedClient.Toml

variable {c : Char} {cs rest piece others : List Char} {name : String} {key : Key} {decor : Decor}
  {text : String} {data : Json} {head : TableHead} {entries : Entries} {entry : Key × Item}
  {statements more : List Statement} {document : Document}

namespace Item

/-- Whether an item is a value without entries. -/
def isLeaf : Item → Bool
  | .value _ _ _ => true
  | _ => false

/-- Whether an item is a value, or a table of values that prints its header. -/
def isFlat : Item → Bool
  | .value _ _ _ => true
  | .table head entries =>
    !head.dotted && (!head.implicit || !entries.isEmpty) && entries.all (·.2.isLeaf)
  | _ => false

end Item

/-- A document of values and of tables of values. -/
def Document.IsFlat (document : Document) : Prop :=
  ∀ entry ∈ document.entries, entry.2.isFlat = true

instance : DecidablePred Document.IsFlat := fun document =>
  inferInstanceAs (Decidable (∀ entry ∈ document.entries, entry.2.isFlat = true))

/-! ## Lines -/

/-- What is written or is so by default has a property of both. -/
theorem getD_of_forall {P : String → Prop} {written : Option String} {default : String}
    (ofWritten : ∀ text ∈ written, P text) (ofDefault : P default) : P (written.getD default) := by
  cases written with
  | none => exact ofDefault
  | some text => exact ofWritten text rfl

theorem pathText_singleton (before after : String) (key : Key) :
    pathText before after [key] = key.leaf.wrap before after key.text := by
  simp [pathText, String.intercalate]
  rfl

/-- The line of a value is a piece. -/
theorem exists_isPiece_line (isKey : key.IsReadable) (isValue : IsLineValue decor text data) :
    ∃ read : Key × Item, (read.1.name, read.2.data) = (key.name, data) ∧
      IsPiece (linesText [⟨[key], decor, text⟩]).toList [.pair [] read.1 read.2] := by
  have isBefore : IsTrivia (key.leaf.before.getD "").toList :=
    getD_of_forall isKey.before isTrivia_empty
  have isAfter : ∀ c ∈ (key.leaf.after.getD " ").toList, isBlank c = true :=
    getD_of_forall isKey.after isBlank_of_mem_space
  have isStart : ∀ c ∈ (decor.before.getD " ").toList, isBlank c = true :=
    getD_of_forall isValue.before isBlank_of_mem_space
  have isLine : (linesText [⟨[key], decor, text⟩]).toList =
      (key.leaf.before.getD "").toList ++ (key.text.toList ++ ((key.leaf.after.getD " ").toList ++
        '=' :: ((decor.before.getD " ").toList ++ (text.toList ++
          (decor.after.getD "").toList)))) ++ ['\n'] := by
    simp [linesText, pathText_singleton, Decor.wrap]
  rw [isLine]
  exact ⟨(_, _), rfl, isPiece_pair isBefore isKey.text isAfter isStart isValue⟩

theorem exists_eq_value (readable : IsReadable entry) (isLeaf : entry.2.isLeaf = true) :
    ∃ key decor text data, entry = (key, .value decor text data) ∧ key.IsReadable ∧
      IsLineValue decor text data := by
  cases readable with
  | value isKey isValue => exact ⟨_, _, _, _, rfl, isKey, isValue⟩
  | inlineTable | table | tables => cases isLeaf

/-- The lines of values are a piece. -/
theorem exists_isPiece_lines
    (leaves : ∀ entry ∈ entries, IsReadable entry ∧ entry.2.isLeaf = true) :
    ∃ read : Entries, entriesData read = entriesData entries ∧
      IsPiece (linesText (entryLines [] entries)).toList (pairStatements read) := by
  induction entries with
  | nil => exact ⟨[], rfl, .nil⟩
  | cons entry rest ih =>
    obtain ⟨⟨readable, isLeaf⟩, leavesRest⟩ := List.forall_mem_cons.mp leaves
    obtain ⟨key, decor, text, data, rfl, isKey, isValue⟩ := exists_eq_value readable isLeaf
    obtain ⟨⟨spelled, item⟩, same, isPiece⟩ := exists_isPiece_line isKey isValue
    obtain ⟨others, sameRest, isPieceRest⟩ := ih leavesRest
    obtain ⟨isName, isData⟩ := Prod.mk.inj same
    refine ⟨(spelled, item) :: others, ?_, ?_⟩
    · rw [entriesData, entriesData, sameRest, isName, isData, Item.data]
    · have lines : (linesText (entryLines [] ((key, .value decor text data) :: rest))).toList =
          (linesText [⟨[key], decor, text⟩]).toList ++ (linesText (entryLines [] rest)).toList := by
        rw [entryLines, Item.valueLines, List.nil_append, List.singleton_append, toList_linesText,
          List.flatMap_cons, ← toList_linesText]
      rw [lines]
      exact isPiece.append isPieceRest

/-! ## Tables -/

/-- The line of a header is a piece, whether it is the first of the document or not. -/
theorem exists_isPiece_header (isKey : key.IsReadable) (isHeader : IsHeader key decor)
    (first : Bool) : ∃ surroundings read, read.name = key.name ∧
      IsPiece (decor.wrap (if first then "" else "\n") "" ("[" ++ pathText "" "" [key] ++ "]") ++
        "\n").toList [.header false surroundings [] read] := by
  have isBefore : IsTrivia (decor.before.getD (if first then "" else "\n")).toList := by
    refine getD_of_forall isHeader.before ?_
    cases first with
    | true => exact isTrivia_empty
    | false => exact isTrivia_feed
  have isStart : ∀ c ∈ (key.leaf.before.getD "").toList, isBlank c = true :=
    getD_of_forall isHeader.blank isBlank_of_mem_empty
  have isAfter : ∀ c ∈ (key.leaf.after.getD "").toList, isBlank c = true :=
    getD_of_forall isKey.after isBlank_of_mem_empty
  have isLine : (decor.wrap (if first then "" else "\n") "" ("[" ++ pathText "" "" [key] ++ "]") ++
      "\n").toList = (decor.before.getD (if first then "" else "\n")).toList ++
        '[' :: ((key.leaf.before.getD "").toList ++ (key.text.toList ++
          ((key.leaf.after.getD "").toList ++ ']' :: (decor.after.getD "").toList))) ++ ['\n'] := by
    simp [pathText_singleton, Decor.wrap]
  rw [isLine]
  exact ⟨_, .spelled key.name _ _ _, rfl,
    isPiece_header isBefore isKey.text isStart isAfter isHeader.after⟩

/-- A table of values that prints its header, and what it prints. -/
inductive PrintsTable : Section → Key × Item → Prop
  | mk {key : Key} {head : TableHead} {entries : Entries} (isKey : key.IsReadable)
    (isHeader : IsHeader key head.decor) (shown : head.implicit = false ∨ entries ≠ [])
    (leaves : ∀ entry ∈ entries, IsReadable entry ∧ entry.2.isLeaf = true)
    (distinct : (entries.map (·.1.name)).Nodup) :
    PrintsTable ⟨[key], head, false, entryLines [] entries⟩ (key, .table head entries)

theorem entriesData_eq_map (entries : Entries) :
    entriesData entries = entries.map fun entry => (entry.1.name, entry.2.data) := by
  induction entries with
  | nil => rfl
  | cons entry rest ih => rw [entriesData, ih, List.map_cons]

theorem map_fst_entriesData (entries : Entries) :
    (entriesData entries).map (·.1) = entries.map (·.1.name) := by
  rw [entriesData_eq_map, List.map_map]
  rfl

theorem nodup_of_entriesData_eq {read : Entries} (same : entriesData read = entriesData entries)
    (distinct : (entries.map (·.1.name)).Nodup) : (read.map (·.1.name)).Nodup := by
  rwa [← map_fst_entriesData, same, map_fst_entriesData]

theorem hasHeader_of_shown (shown : head.implicit = false ∨ entries ≠ [])
    (leaves : ∀ entry ∈ entries, IsReadable entry ∧ entry.2.isLeaf = true) :
    Section.hasHeader ⟨[key], head, false, entryLines [] entries⟩ = true := by
  rcases shown with explicit | nonempty
  · simp [Section.hasHeader, explicit]
  · obtain ⟨entry, rest, rfl⟩ := List.exists_cons_of_ne_nil nonempty
    obtain ⟨readable, isLeaf⟩ := leaves entry List.mem_cons_self
    obtain ⟨key, decor, text, data, rfl, -⟩ := exists_eq_value readable isLeaf
    simp [Section.hasHeader, entryLines, Item.valueLines]

/-- Tables are a piece, the statements of which build tables that hold the same. -/
theorem exists_isPiece_tables {sections : List Section} {tables : Entries}
    (prints : List.Forall₂ PrintsTable sections tables) (first : Bool) :
    ∃ statements, BeginsTable statements ∧ IsPiece (sectionsText first sections).toList statements ∧
      ∀ position entries, ((entries ++ tables).map (·.1.name)).Nodup →
        ∃ added, addTables? position statements entries = some (entries ++ added) ∧
          entriesData added = entriesData tables := by
  induction prints generalizing first with
  | nil =>
    refine ⟨[], nofun, .nil, fun position entries _ => ⟨[], ?_, rfl⟩⟩
    rw [addTables?, List.append_nil]
  | @cons _ _ sections tables isTable _ ih =>
    obtain @⟨key, head, inside, isKey, isHeader, shown, leaves, distinct⟩ := isTable
    have hasHeader : Section.hasHeader ⟨[key], head, false, entryLines [] inside⟩ = true :=
      hasHeader_of_shown shown leaves
    obtain ⟨surroundings, spelled, isName, isPieceHeader⟩ :=
      exists_isPiece_header isKey isHeader first
    obtain ⟨pairs, samePairs, isPieceLines⟩ := exists_isPiece_lines leaves
    obtain ⟨others, begins, isPieceOthers, builds⟩ := ih false
    refine ⟨.header false surroundings [] spelled :: (pairStatements pairs ++ others), ?_, ?_,
      fun position entries distinctAll => ?_⟩
    · intro path key item isPair
      cases isPair
    · have isText : (sectionsText first
          (⟨[key], head, false, entryLines [] inside⟩ :: sections)).toList =
          (head.decor.wrap (if first then "" else "\n") "" ("[" ++ pathText "" "" [key] ++ "]") ++
            "\n").toList ++ ((linesText (entryLines [] inside)).toList ++
              (sectionsText false sections).toList) := by
        simp only [sectionsText, Section.text, hasHeader, if_true, Bool.false_eq_true, if_false,
          Bool.not_true, Bool.and_false, String.toList_append, List.append_assoc]
      rw [isText]
      exact isPieceHeader.append (isPieceLines.append isPieceOthers)
    · rw [List.map_append, List.map_cons] at distinctAll
      have isNew : spelled.name ∉ entries.map (·.1.name) := by
        rw [isName]
        exact fun isIn =>
          (List.nodup_append.mp distinctAll).2.2 _ isIn _ List.mem_cons_self rfl
      obtain ⟨added, isAdded, sameAdded⟩ := builds (position + 1) (entries ++
        [(spelled, .table { decor := surroundings, position := some (position + 1) } pairs)])
          (by simpa [isName] using distinctAll)
      refine ⟨(spelled, .table { decor := surroundings, position := some (position + 1) } pairs) ::
        added, ?_, ?_⟩
      · rw [addTables?_header isNew (nodup_of_entriesData_eq samePairs distinct) begins, isAdded,
          List.append_assoc]
        rfl
      · rw [entriesData, entriesData, sameAdded, Item.data, Item.data, samePairs, isName]

/-! ## Documents -/

/-- The values of a flat document print its first lines. -/
theorem entryLines_filter (flat : ∀ entry ∈ entries, entry.2.isFlat = true) :
    entryLines [] entries = entryLines [] (entries.filter (·.2.isLeaf)) := by
  induction entries with
  | nil => rfl
  | cons entry rest ih =>
    obtain ⟨key, item⟩ := entry
    obtain ⟨isFlat, flatRest⟩ := List.forall_mem_cons.mp flat
    cases item with
    | value decor text data =>
      rw [List.filter_cons_of_pos rfl, entryLines, entryLines, ih flatRest]
    | table head inside =>
      have noDots : head.dotted = false := by
        simp only [Item.isFlat, Bool.and_eq_true, Bool.not_eq_true'] at isFlat
        exact isFlat.1.1
      rw [List.filter_cons_of_neg (by simp [Item.isLeaf]), entryLines, Item.valueLines, noDots,
        ih flatRest]
      rfl
    | inlineTable | tables => cases isFlat

/-- Values have no tables in them. -/
theorem entrySections_leaves (path : List Key) (leaves : ∀ entry ∈ entries, entry.2.isLeaf = true) :
    entrySections path entries = [] := by
  induction entries with
  | nil => rfl
  | cons entry rest ih =>
    obtain ⟨key, item⟩ := entry
    obtain ⟨isLeaf, leavesRest⟩ := List.forall_mem_cons.mp leaves
    cases item with
    | value decor text data =>
      rw [entrySections, ih leavesRest]
      rfl
    | inlineTable | table | tables => cases isLeaf

/-- The tables of a flat document print its headers and the lines under them. -/
theorem printsTable_entrySections (readable : ∀ entry ∈ entries, IsReadable entry)
    (sound : entriesSound false entries) (flat : ∀ entry ∈ entries, entry.2.isFlat = true) :
    List.Forall₂ PrintsTable (entrySections [] entries)
      (entries.filter fun entry => !entry.2.isLeaf) := by
  induction entries with
  | nil => exact .nil
  | cons entry rest ih =>
    obtain ⟨key, item⟩ := entry
    obtain ⟨readableItem, readableRest⟩ := List.forall_mem_cons.mp readable
    obtain ⟨soundItem, -, soundRest⟩ := sound
    obtain ⟨isFlat, flatRest⟩ := List.forall_mem_cons.mp flat
    have prints := ih readableRest soundRest flatRest
    cases readableItem with
    | value isKey isValue =>
      rw [List.filter_cons_of_neg (by simp [Item.isLeaf])]
      exact prints
    | @table _ head inside isKey isHeader readableInside =>
      simp only [Item.isFlat, Bool.and_eq_true, Bool.not_eq_true', Bool.or_eq_true,
        List.all_eq_true] at isFlat
      obtain ⟨⟨noDots, shown⟩, leaves⟩ := isFlat
      have isShown : head.implicit = false ∨ inside ≠ [] := by simpa using shown
      have sections : entrySections [] ((key, .table head inside) :: rest) =
          ⟨[key], head, false, entryLines [] inside⟩ :: entrySections [] rest := by
        rw [entrySections, Item.sections, noDots, entrySections_leaves _ leaves]
        rfl
      rw [List.filter_cons_of_pos rfl, sections]
      exact .cons (.mk isKey (isHeader noDots) isShown
        (fun entry isEntry => ⟨readableInside entry isEntry, leaves entry isEntry⟩)
        (entriesSound_iff.mp soundItem.2).2) prints
    | inlineTable | tables => cases isFlat

/-- The text of a flat document is read as a document that holds the same. -/
theorem Document.exists_parse?_text (readable : document.IsReadable) (flat : document.IsFlat) :
    ∃ read, parse? document.text = some read ∧
      (entriesData read.entries).Perm (entriesData document.entries) := by
  obtain ⟨entries, trailing⟩ := document
  obtain ⟨⟨sound, areReadable⟩, noReturn, isTrailing⟩ := readable
  dsimp only at areReadable sound
  -- Tables are printed in the order of their places.
  have placed : (((place 0 (entrySections [] entries)).mergeSort fun a b => a.1 ≤ b.1).map
      (·.2)).Perm (entrySections [] entries) := by
    have sorted := (List.mergeSort_perm (place 0 (entrySections [] entries))
      fun a b => a.1 ≤ b.1).map (·.2)
    rwa [map_place] at sorted
  obtain ⟨tables, prints, sameTables⟩ :=
    List.perm_comp_forall₂ placed (printsTable_entrySections areReadable sound flat)
  have parts : (entries.filter (·.2.isLeaf) ++ tables).Perm entries :=
    (sameTables.append_left _).trans (List.filter_append_perm (·.2.isLeaf) entries)
  have distinct := (parts.map (·.1.name)).nodup_iff.mpr (entriesSound_iff.mp sound).2
  obtain ⟨pairs, samePairs, isPieceLines⟩ := exists_isPiece_lines fun entry isEntry =>
    ⟨areReadable entry (List.mem_of_mem_filter isEntry), (List.mem_filter.mp isEntry).2⟩
  obtain ⟨statements, begins, isPieceTables, builds⟩ :=
    exists_isPiece_tables prints (entryLines [] entries).isEmpty
  have sameNames : pairs.map (·.1.name) = (entries.filter (·.2.isLeaf)).map (·.1.name) := by
    rw [← map_fst_entriesData, samePairs, map_fst_entriesData]
  rw [List.map_append, ← sameNames] at distinct
  obtain ⟨added, isAdded, sameAdded⟩ := builds 0 pairs (by rwa [List.map_append])
  have isPairs : addPairs? (pairStatements pairs ++ statements) [] = some pairs :=
    addPairs?_statements begins (List.Nodup.of_append_left distinct)
  have isText : (⟨entries, trailing⟩ : Document).text = String.ofList
      ((linesText (entryLines [] (entries.filter (·.2.isLeaf)))).toList ++
        (sectionsText (entryLines [] entries).isEmpty
          (((place 0 (entrySections [] entries)).mergeSort fun a b => a.1 ≤ b.1).map
            (·.2))).toList) ++ trailing := by
    rw [String.ofList_append, String.ofList_toList, String.ofList_toList, ← entryLines_filter flat]
    rfl
  refine ⟨⟨pairs ++ added, trailing⟩, ?_, ?_⟩
  · rw [isText, parse?_of_isPiece (isPieceLines.append isPieceTables) noReturn isTrailing, isPairs,
      Option.bind_some, addTables?_statements, isAdded, Option.map_some]
  · simp only [entriesData_eq_map, List.map_append] at samePairs sameAdded ⊢
    rw [samePairs, sameAdded, ← List.map_append]
    exact parts.map _

end TypedClient.Toml
