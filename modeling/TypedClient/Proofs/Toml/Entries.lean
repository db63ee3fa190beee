/-
# Setting entries

What setting, removing and opening one name does to the entries of a table: the name holds what it
was given, every other entry keeps its place, its key and what it holds, and doing it once more
changes nothing. None of this needs the names to be distinct.
-/

import TypedClient.Toml.Tree

namespace TypedClient.Toml

namespace Entries

variable {name other : String} {names : List String} {item : Item} {item? : Option Item}
  {entries after : Entries}

/-- The entries under other names than the given ones. -/
def without (names : List String) (entries : Entries) : Entries :=
  entries.filter fun entry => entry.1.name ∉ names

/-- Sets what a name holds, or removes the name. -/
def assign (name : String) (item? : Option Item) (entries : Entries) : Entries :=
  match item? with
  | some item => entries.set name item
  | none => entries.erase name

/-- Sets or removes names one after another. -/
def assignAll (fields : List (String × Option Item)) (entries : Entries) : Entries :=
  fields.foldl (fun entries field => entries.assign field.1 field.2) entries

/-! ## Finding -/

theorem find?_cons (key : Key) (item : Item) (rest : Entries) :
    find? name ((key, item) :: rest) =
      if key.name = name then some item else find? name rest := by
  by_cases isName : key.name = name <;> simp [find?, isName]

theorem find?_append (front back : Entries) :
    find? name (front ++ back) = (find? name front).or (find? name back) := by
  simp only [find?, List.find?_append, Option.map_or]

/-- Entries left out under some names are not missed under another. -/
theorem find?_without (isOther : other ∉ names) (entries : Entries) :
    find? other (entries.without names) = find? other entries := by
  rw [find?, find?, without, List.find?_filter]
  congr 2
  funext entry
  by_cases isName : entry.1.name = other <;> simp [isName, isOther]

/-- What keeps the entries without some names keeps what another name holds. -/
theorem find?_of_without_eq (same : after.without names = entries.without names)
    (isOther : other ∉ names) : find? other after = find? other entries := by
  rw [← find?_without isOther, same, find?_without isOther]

/-- What keeps the entries without some names makes no entry under another. -/
theorem mem_of_without_eq (same : after.without names = entries.without names)
    {entry : Key × Item} (isEntry : entry ∈ after) (isOther : entry.1.name ∉ names) :
    entry ∈ entries := by
  have kept : entry ∈ after.without names := List.mem_filter.mpr ⟨isEntry, decide_eq_true isOther⟩
  rw [same] at kept
  exact (List.mem_filter.mp kept).1

/-- To find among entries is to look up in what they stand for. -/
theorem lookup_entriesData (name : String) (entries : Entries) :
    (entriesData entries).lookup name = (find? name entries).map Item.data := by
  induction entries with
  | nil => rfl
  | cons entry rest ih =>
    obtain ⟨key, item⟩ := entry
    rw [entriesData, find?_cons, List.lookup_cons]
    by_cases isName : key.name = name
    · simp [isName]
    · have isOther : (name == key.name) = false := beq_false_of_ne (Ne.symm isName)
      rw [if_neg isName, isOther, ih]

/-! ## One name -/

/-- A change of the entries under some names passes over all others. -/
theorem without_map {change : Key × Item → Key × Item}
    (keeps : ∀ entry : Key × Item, (change entry).1.name = entry.1.name)
    (passes : ∀ entry : Key × Item, entry.1.name ∉ names → change entry = entry)
    (entries : Entries) : without names (entries.map change) = entries.without names := by
  induction entries with
  | nil => rfl
  | cons entry rest ih =>
    rw [without, without] at ih ⊢
    by_cases isIn : entry.1.name ∈ names
    · simpa [isIn, keeps entry] using ih
    · simpa [isIn, passes entry isIn] using ih

/-- A change that keeps all names is found where the entry was. -/
theorem find?_map {change : Key × Item → Key × Item}
    (keeps : ∀ entry : Key × Item, (change entry).1.name = entry.1.name) (entries : Entries) :
    find? name (entries.map change) =
      (List.find? (fun entry => entry.1.name == name) entries).map fun entry =>
        (change entry).2 := by
  rw [find?, List.find?_map, Option.map_map]
  congr 2
  funext entry
  exact congrArg (· == name) (keeps entry)

theorem without_update (isNamed : name ∈ names) (change : Item → Item) (entries : Entries) :
    (entries.update name change).without names = entries.without names := by
  rw [update]
  refine without_map ?_ (fun entry isOther => ?_) entries
  · exact fun entry => rfl
  · have notName : entry.1.name ≠ name := fun isName => isOther (isName ▸ isNamed)
    simp [notName]

theorem without_set (isNamed : name ∈ names) (item : Item) (entries : Entries) :
    (entries.set name item).without names = entries.without names := by
  rw [set]
  split
  · exact without_update isNamed _ entries
  · simp [without, isNamed]

theorem without_erase (isNamed : name ∈ names) (entries : Entries) :
    (entries.erase name).without names = entries.without names := by
  rw [without, erase, List.filter_filter, without]
  refine List.filter_congr fun entry _ => ?_
  by_cases isName : entry.1.name = name <;> simp [isName, isNamed]

theorem without_assign (isNamed : name ∈ names) (item? : Option Item) (entries : Entries) :
    (entries.assign name item?).without names = entries.without names := by
  cases item? with
  | some item => exact without_set isNamed item entries
  | none => exact without_erase isNamed entries

theorem find?_update_self (name : String) (change : Item → Item) (entries : Entries) :
    (entries.update name change).find? name = (entries.find? name).map change := by
  rw [update, find?_map, find?, Option.map_map]
  · refine Option.map_congr fun entry isFound => ?_
    have isName : entry.1.name = name := by simpa using List.find?_some isFound
    simp [isName]
  · exact fun entry => rfl

/-- A change that has no effect under its name has none at all. -/
theorem update_eq_self {change : Item → Item}
    (keeps : ∀ entry ∈ entries, entry.1.name = name → change entry.2 = entry.2) :
    entries.update name change = entries := by
  refine (List.map_congr_left fun entry isEntry => ?_).trans (List.map_id entries)
  by_cases isName : entry.1.name = name
  · simp [isName, keeps entry isEntry isName]
  · simp [isName]

/-! ## Opened tables -/

theorem without_openTable (isNamed : name ∈ names) (entries : Entries) :
    (entries.openTable name).without names = entries.without names := by
  rw [openTable]
  split
  · split
    · rfl
    · refine without_map (fun entry => ?_) (fun entry isOther => ?_) entries
      · by_cases isName : entry.1.name = name <;> simp [isName]
      · have notName : entry.1.name ≠ name := fun isName => isOther (isName ▸ isNamed)
        simp [notName]
  · simp [without, isNamed]

/-- A table that is there is opened as it is. -/
theorem openTable_eq_self (found : entries.find? name = some item) (isTable : item.isTable) :
    entries.openTable name = entries := by
  rw [openTable, found]
  exact if_pos isTable

/-- Anything but a table gives way to a table without entries. -/
theorem find?_openTable (noTable : ∀ item, entries.find? name = some item → ¬ item.isTable) :
    (entries.openTable name).find? name = some (.table {} []) := by
  cases found : entries.find? name with
  | none => rw [openTable, found, find?_append, found, find?_cons, if_pos rfl, Option.none_or]
  | some item =>
    obtain ⟨entry, isFound, -⟩ := Option.map_eq_some_iff.mp found
    have isName : entry.1.name = name := by simpa using List.find?_some isFound
    rw [openTable, found]
    dsimp only
    rw [if_neg (noTable item found), find?_map, isFound, Option.map_some]
    · simp [isName]
    · intro entry
      by_cases isName : entry.1.name = name <;> simp [isName]

/-- An opened name holds a table, whatever it held before. -/
theorem exists_find?_openTable (name : String) (entries : Entries) :
    ∃ item : Item, item.isTable ∧ (entries.openTable name).find? name = some item := by
  by_cases isThere : ∃ item, entries.find? name = some item ∧ item.isTable
  · obtain ⟨item, found, isTable⟩ := isThere
    exact ⟨item, isTable, by rw [openTable_eq_self found isTable, found]⟩
  · refine ⟨.table {} [], rfl, find?_openTable fun item found isTable => ?_⟩
    exact isThere ⟨item, found, isTable⟩

/-! ## Assigned names -/

/-- All that a name holds is the given item, or the name holds nothing. -/
structure Stores (name : String) (item? : Option Item) (entries : Entries) : Prop where
  found : find? name entries = item?
  only : ∀ entry ∈ entries, entry.1.name = name → some entry.2 = item?

namespace Stores

theorem set (name : String) (item : Item) (entries : Entries) :
    Stores name (some item) (entries.set name item) := by
  rw [Entries.set]
  split
  · rename_i isThere
    obtain ⟨old, isOld⟩ := Option.isSome_iff_exists.mp isThere
    refine ⟨by rw [find?_update_self, isOld, Option.map_some], fun entry isEntry isName => ?_⟩
    obtain ⟨before, -, rfl⟩ := List.mem_map.mp isEntry
    exact congrArg some (if_pos isName)
  · rename_i isMissing
    have isNone : find? name entries = none := Option.not_isSome_iff_eq_none.mp isMissing
    refine ⟨by rw [find?_append, isNone, find?_cons, if_pos rfl, Option.none_or], ?_⟩
    intro entry isEntry isName
    rcases List.mem_append.mp isEntry with isOld | isNew
    · have isFree : ∀ entry ∈ entries, entry.1.name ≠ name := by simpa [find?] using isNone
      exact absurd isName (isFree entry isOld)
    · rw [List.mem_singleton.mp isNew]

theorem erase (name : String) (entries : Entries) :
    Stores name none (entries.erase name) := by
  have isGone : ∀ entry ∈ entries.erase name, entry.1.name ≠ name := fun entry isEntry =>
    of_decide_eq_true (List.mem_filter.mp isEntry).2
  refine ⟨?_, fun entry isEntry isName => absurd isName (isGone entry isEntry)⟩
  rw [find?, List.find?_eq_none.mpr, Option.map_none]
  exact fun entry isEntry isName => isGone entry isEntry (eq_of_beq isName)

theorem assign (name : String) (item? : Option Item) (entries : Entries) :
    Stores name item? (entries.assign name item?) := by
  cases item? with
  | some item => exact .set name item entries
  | none => exact .erase name entries

/-- What keeps all entries but some does not touch another name. -/
theorem of_without_eq (stores : Stores name item? entries)
    (same : after.without names = entries.without names) (isOther : name ∉ names) :
    Stores name item? after where
  found := (find?_of_without_eq same isOther).trans stores.found
  only entry isEntry isName :=
    stores.only entry (mem_of_without_eq same isEntry (isName ▸ isOther)) isName

/-- To assign once more changes nothing. -/
theorem assign_eq_self (stores : Stores name item? entries) :
    entries.assign name item? = entries := by
  cases item? with
  | some item =>
    have isThere : (find? name entries).isSome := by rw [stores.found]; rfl
    rw [Entries.assign, Entries.set, if_pos isThere]
    exact update_eq_self fun entry isEntry isName =>
      (Option.some.inj (stores.only entry isEntry isName)).symm
  | none =>
    refine List.filter_eq_self.mpr fun entry isEntry => decide_eq_true fun isName => ?_
    cases stores.only entry isEntry isName

end Stores

/-! ## Many names -/

/-- Edits of entries, each under a name of its own, and what holds of the entries once one of them
is done. -/
structure AreEdits {Part : Type} (nameOf : Part → String) (edit : Part → Entries → Entries)
    (Done : Part → Entries → Prop) (parts : List Part) : Prop where
  passes : ∀ part ∈ parts, ∀ names entries, nameOf part ∈ names →
    (edit part entries).without names = entries.without names
  done : ∀ part ∈ parts, ∀ entries, Done part (edit part entries)
  stays : ∀ part ∈ parts, ∀ names entries after, nameOf part ∉ names →
    after.without names = entries.without names → Done part entries → Done part after
  settled : ∀ part ∈ parts, ∀ entries, Done part entries → edit part entries = entries

namespace AreEdits

variable {Part : Type} {nameOf : Part → String} {edit : Part → Entries → Entries}
  {Done : Part → Entries → Prop} {part : Part} {parts : List Part}

theorem tail (edits : AreEdits nameOf edit Done (part :: parts)) :
    AreEdits nameOf edit Done parts where
  passes part isPart := edits.passes part (List.mem_cons_of_mem _ isPart)
  done part isPart := edits.done part (List.mem_cons_of_mem _ isPart)
  stays part isPart := edits.stays part (List.mem_cons_of_mem _ isPart)
  settled part isPart := edits.settled part (List.mem_cons_of_mem _ isPart)

/-- Only the edited names are touched. -/
theorem without_foldl (edits : AreEdits nameOf edit Done parts)
    (areNamed : ∀ part ∈ parts, nameOf part ∈ names) (entries : Entries) :
    (parts.foldl (fun entries part => edit part entries) entries).without names =
      entries.without names := by
  induction parts generalizing entries with
  | nil => rfl
  | cons part rest ih =>
    obtain ⟨isNamed, areRest⟩ := List.forall_mem_cons.mp areNamed
    exact (ih edits.tail areRest _).trans
      (edits.passes part List.mem_cons_self names entries isNamed)

/-- After edits of distinct names all of them are done, whatever was there. -/
theorem done_foldl (edits : AreEdits nameOf edit Done parts)
    (distinct : (parts.map nameOf).Nodup) (entries : Entries) :
    ∀ part ∈ parts, Done part (parts.foldl (fun entries part => edit part entries) entries) := by
  induction parts generalizing entries with
  | nil => exact List.forall_mem_nil _
  | cons part rest ih =>
    obtain ⟨isNew, areDistinct⟩ := List.nodup_cons.mp distinct
    refine List.forall_mem_cons.mpr ⟨?_, ih edits.tail areDistinct _⟩
    -- The later names are others, so the first one is not touched again.
    have untouched := edits.tail.without_foldl
      (fun _ isPart => List.mem_map_of_mem isPart) (edit part entries)
    exact edits.stays part List.mem_cons_self _ _ _ isNew untouched
      (edits.done part List.mem_cons_self entries)

/-- Each name is left with what its own edit makes of what it held at first. -/
theorem exists_find?_foldl (edits : AreEdits nameOf edit Done parts)
    (distinct : (parts.map nameOf).Nodup) (isPart : part ∈ parts) (entries : Entries) :
    ∃ before : Entries, before.find? (nameOf part) = entries.find? (nameOf part) ∧
      find? (nameOf part) (parts.foldl (fun entries part => edit part entries) entries) =
        (edit part before).find? (nameOf part) := by
  induction parts generalizing entries with
  | nil => cases isPart
  | cons first rest ih =>
    obtain ⟨isNew, areDistinct⟩ := List.nodup_cons.mp distinct
    rcases List.mem_cons.mp isPart with rfl | isRest
    · have untouched := edits.tail.without_foldl
        (fun _ isPart => List.mem_map_of_mem isPart) (edit part entries)
      exact ⟨entries, rfl, find?_of_without_eq untouched isNew⟩
    · obtain ⟨before, same, isFound⟩ := ih edits.tail areDistinct isRest (edit first entries)
      refine ⟨before, same.trans ?_, isFound⟩
      have isOther : nameOf part ∉ [nameOf first] := fun isFirst =>
        isNew (List.mem_singleton.mp isFirst ▸ List.mem_map_of_mem isRest)
      exact find?_of_without_eq
        (edits.passes first List.mem_cons_self _ entries List.mem_cons_self) isOther

/-- Where all edits are done, doing them changes nothing. -/
theorem foldl_eq_self (edits : AreEdits nameOf edit Done parts)
    (areDone : ∀ part ∈ parts, Done part entries) :
    parts.foldl (fun entries part => edit part entries) entries = entries := by
  induction parts with
  | nil => rfl
  | cons part rest ih =>
    obtain ⟨isDone, areRest⟩ := List.forall_mem_cons.mp areDone
    rw [List.foldl_cons, edits.settled part List.mem_cons_self entries isDone]
    exact ih edits.tail areRest

end AreEdits

variable {fields : List (String × Option Item)}

theorem areEdits_assign (fields : List (String × Option Item)) :
    AreEdits (·.1) (fun field entries => entries.assign field.1 field.2)
      (fun field => Stores field.1 field.2) fields where
  passes field _ _ entries isNamed := without_assign isNamed field.2 entries
  done field _ entries := .assign field.1 field.2 entries
  stays _ _ _ _ _ isOther same stores := stores.of_without_eq same isOther
  settled _ _ _ stores := stores.assign_eq_self

/-- Only the assigned names are touched. -/
theorem without_assignAll (areNamed : ∀ field ∈ fields, field.1 ∈ names) (entries : Entries) :
    (entries.assignAll fields).without names = entries.without names :=
  (areEdits_assign fields).without_foldl areNamed entries

/-- Distinct names that are assigned hold their items, whatever was there. -/
theorem stores_assignAll (distinct : (fields.map (·.1)).Nodup) (entries : Entries) :
    ∀ field ∈ fields, Stores field.1 field.2 (entries.assignAll fields) :=
  (areEdits_assign fields).done_foldl distinct entries

/-- Distinct names that are assigned once more change nothing. -/
theorem assignAll_assignAll (distinct : (fields.map (·.1)).Nodup) (entries : Entries) :
    (entries.assignAll fields).assignAll fields = entries.assignAll fields :=
  (areEdits_assign fields).foldl_eq_self (stores_assignAll distinct entries)

end Entries

namespace Item

theorem isTable_mapEntries (change : Entries → Entries) (item : Item) :
    (item.mapEntries change).isTable = item.isTable := by
  cases item <;> rfl

theorem mapEntries_mapEntries (change again : Entries → Entries) (item : Item) :
    (item.mapEntries change).mapEntries again = item.mapEntries (again ∘ change) := by
  cases item <;> rfl

theorem entries_mapEntries {item : Item} (isTable : item.isTable) (change : Entries → Entries) :
    (item.mapEntries change).entries = change item.entries := by
  cases item with
  | value | tables => cases isTable
  | inlineTable | table => rfl

/-- A table stands for what its entries stand for. -/
theorem data_of_isTable {item : Item} (isTable : item.isTable) :
    item.data = .object (entriesData item.entries) := by
  cases item with
  | value | tables => cases isTable
  | inlineTable | table => rw [data, entries]

end Item

end TypedClient.Toml
