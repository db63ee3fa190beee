/-
# Comments in a settings file

Saving keeps what its user wrote around the settings. The comments of the file before a setting, at
the end of a header, at an unknown entry and behind all entries are in the new file too. A comment
that belongs to the value of a setting, at the end of its line or inside of the value, goes with the
old value, whether or not the setting has changed.
-/

import TypedClient.Proofs.Settings.Values
import TypedClient.Proofs.Toml.Reading

namespace TypedClient.Settings

open Toml

variable {settings loaded : Settings} {document : Toml.Document} {fragment : Fragment}
  {inBraces : Bool} {base names : List String} {name : String}
  {fields : List (String × Option Item)} {entries after : Entries}

/-! ## Edited entries -/

/-- What keeps the entries without some names keeps the fragments of the others. -/
theorem mem_entriesFragments_of_without_eq (same : after.without names = entries.without names)
    {entry : Key × Item} (isEntry : entry ∈ entries) (isOther : entry.1.name ∉ names)
    (isFragment : fragment ∈ entry.2.fragments inBraces base entry.1) :
    fragment ∈ entriesFragments inBraces base after := by
  have kept : entry ∈ after := Entries.mem_of_without_eq same.symm isEntry isOther
  rw [entriesFragments_eq_flatMap]
  exact List.mem_flatMap.mpr ⟨entry, kept, isFragment⟩

theorem exists_find?_of_mem {entry : Key × Item} (isEntry : entry ∈ entries) :
    ∃ item, entries.find? entry.1.name = some item := by
  cases found : entries.find? entry.1.name with
  | some item => exact ⟨item, rfl⟩
  | none =>
    have isMissing : ∀ other ∈ entries, other.1.name ≠ entry.1.name := by
      simpa [Entries.find?] using found
    exact absurd rfl (isMissing entry isEntry)

/-- A fragment under a name is in what the name holds. -/
theorem exists_entry_of_path (isFragment : fragment ∈ entriesFragments inBraces base entries)
    (inside : base ++ [name] <+: fragment.path) :
    ∃ entry ∈ entries, entry.1.name = name ∧
      fragment ∈ entry.2.fragments inBraces base entry.1 := by
  obtain ⟨entry, isEntry, inEntry⟩ := exists_of_mem_entriesFragments isFragment
  obtain ⟨rest, isPath⟩ := inside
  obtain ⟨others, samePath⟩ := entry.2.isPrefix_path inEntry
  have same := samePath.trans isPath.symm
  simp only [List.append_assoc, List.append_cancel_left_eq, List.singleton_append,
    List.cons.injEq] at same
  exact ⟨entry, isEntry, same.1, inEntry⟩

/-- A field may be written without a loss of a fragment: the fragment is not at the field, or it
surrounds its key, and the field gets a new value. -/
def Spares (base : List String) (fragment : Fragment) (field : String × Option Item) : Prop :=
  base ++ [field.1] <+: fragment.path →
    fragment.path = base ++ [field.1] ∧ fragment.role = .key ∧
      ∃ text data, field.2 = some (.value {} text data)

theorem mem_assign {field : String × Option Item} (spares : Spares base fragment field)
    (isFragment : fragment ∈ entriesFragments inBraces base entries) :
    fragment ∈ entriesFragments inBraces base (entries.assign field.1 field.2) := by
  obtain ⟨entry, isEntry, inEntry⟩ := exists_of_mem_entriesFragments isFragment
  by_cases isName : entry.1.name = field.1
  · obtain ⟨isPath, isKey, text, data, isValue⟩ := spares (isName ▸ entry.2.isPrefix_path inEntry)
    have ofKey := Item.mem_key_fragments inEntry (isName ▸ isPath) isKey
    obtain ⟨old, isOld⟩ := exists_find?_of_mem isEntry
    rw [isName] at isOld
    rw [isValue, Entries.assign, Entries.set, isOld, if_pos Option.isSome_some,
      entriesFragments_eq_flatMap]
    refine List.mem_flatMap.mpr ⟨(entry.1, .value {} text data), ?_, ?_⟩
    · refine List.mem_map.mpr ⟨entry, isEntry, ?_⟩
      simp [isName]
    · exact List.mem_append_left _ (List.mem_append_left _ ofKey)
  · refine mem_entriesFragments_of_without_eq
      (Entries.without_assign (List.mem_singleton_self field.1) field.2 entries) isEntry ?_ inEntry
    exact fun isIn => isName (List.mem_singleton.mp isIn)

theorem mem_assignAll (spares : ∀ field ∈ fields, Spares base fragment field)
    (isFragment : fragment ∈ entriesFragments inBraces base entries) :
    fragment ∈ entriesFragments inBraces base (entries.assignAll fields) := by
  induction fields generalizing entries with
  | nil => exact isFragment
  | cons field rest ih =>
    obtain ⟨sparesFirst, sparesRest⟩ := List.forall_mem_cons.mp spares
    exact ih sparesRest (mem_assign sparesFirst isFragment)

/-- A fragment is spared by an edit of a section: if it is in the section, this is a table, and its
fields spare it. -/
structure SparesSection (fragment : Fragment) (entries : Entries)
    (part : String × List (String × Option Item)) : Prop where
  isTable : [part.1] <+: fragment.path →
    ∀ item, entries.find? part.1 = some item → item.isTable
  spares : ∀ field ∈ part.2, Spares [part.1] fragment field

theorem mem_mapEntries {key : Key} {item : Item} {change : Entries → Entries}
    (keeps : ∀ inBraces entries,
      fragment ∈ entriesFragments inBraces (base ++ [key.name]) entries →
      fragment ∈ entriesFragments inBraces (base ++ [key.name]) (change entries))
    (isFragment : fragment ∈ item.fragments inBraces base key) :
    fragment ∈ (item.mapEntries change).fragments inBraces base key := by
  cases item with
  | value | tables => exact isFragment
  | inlineTable dotted decor padding entries =>
    rw [Item.mapEntries, Item.fragments, List.mem_append]
    rw [Item.fragments, List.mem_append] at isFragment
    exact isFragment.imp_right (keeps true entries)
  | table head entries =>
    rw [Item.mapEntries, Item.fragments]
    rw [Item.fragments] at isFragment
    split
    · rename_i inside
      rwa [if_pos inside] at isFragment
    · rename_i outside
      rw [if_neg outside, List.mem_append] at isFragment
      rw [List.mem_append]
      exact isFragment.imp_right (keeps false entries)

theorem mem_editSection {part : String × List (String × Option Item)}
    (spares : SparesSection fragment entries part)
    (isFragment : fragment ∈ entriesFragments false [] entries) :
    fragment ∈ entriesFragments false [] (editSection part.1 (·.assignAll part.2) entries) := by
  obtain ⟨⟨key, item⟩, isEntry, inEntry⟩ := exists_of_mem_entriesFragments isFragment
  by_cases isName : key.name = part.1
  · have inSection : [part.1] <+: fragment.path := isName ▸ item.isPrefix_path inEntry
    obtain ⟨found, isFound⟩ : ∃ found, entries.find? part.1 = some found :=
      isName ▸ exists_find?_of_mem isEntry
    rw [editSection, Entries.openTable_eq_self isFound (spares.isTable inSection found isFound),
      entriesFragments_eq_flatMap]
    refine List.mem_flatMap.mpr ⟨(key, item.mapEntries (·.assignAll part.2)), ?_, ?_⟩
    · refine List.mem_map.mpr ⟨(key, item), isEntry, ?_⟩
      simp [isName]
    · refine mem_mapEntries (fun inBraces entries inside => ?_) inEntry
      rw [isName, List.nil_append] at inside ⊢
      exact mem_assignAll spares.spares inside
  · refine mem_entriesFragments_of_without_eq
      (without_editSection (List.mem_singleton_self part.1) _ entries) isEntry ?_ inEntry
    exact fun isIn => isName (List.mem_singleton.mp isIn)

theorem SparesSection.of_without_eq {part : String × List (String × Option Item)}
    (spares : SparesSection fragment entries part)
    (same : after.without names = entries.without names) (isOther : part.1 ∉ names) :
    SparesSection fragment after part where
  isTable inSection item found :=
    spares.isTable inSection item ((Entries.find?_of_without_eq same isOther).symm.trans found)
  spares := spares.spares

theorem mem_foldl_editSection {parts : List (String × List (String × Option Item))}
    (distinct : (parts.map (·.1)).Nodup)
    (spares : ∀ part ∈ parts, SparesSection fragment entries part)
    (isFragment : fragment ∈ entriesFragments false [] entries) :
    fragment ∈ entriesFragments false [] (parts.foldl
      (fun entries part => editSection part.1 (·.assignAll part.2) entries) entries) := by
  induction parts generalizing entries with
  | nil => exact isFragment
  | cons part rest ih =>
    obtain ⟨isNew, distinctRest⟩ := List.nodup_cons.mp distinct
    obtain ⟨sparesFirst, sparesRest⟩ := List.forall_mem_cons.mp spares
    refine ih distinctRest (fun other isRest => ?_) (mem_editSection sparesFirst isFragment)
    -- The other sections are not touched by this edit.
    have isOther : other.1 ∉ [part.1] := fun isFirst =>
      isNew (List.mem_map.mpr ⟨other, isRest, List.mem_singleton.mp isFirst⟩)
    exact (sparesRest other isRest).of_without_eq
      (without_editSection (List.mem_singleton_self part.1) _ entries) isOther

/-! ## Written settings -/

/-- A fragment that does not outlive its settings: it belongs to the value of a setting, in whatever
form the file has it, or to what stands in the place of a section. -/
inductive IsReplaced (document : Toml.Document) (fragment : Fragment) : Prop where
  | value {known : String × List String} {name : String} (isKnown : known ∈ knownFields)
      (isName : name ∈ known.2) (inside : [known.1, name] <+: fragment.path)
      (notKey : fragment.path = [known.1, name] → fragment.role ≠ .key)
  | displaced {known : String × List String} {item : Item} (isKnown : known ∈ knownFields)
      (found : document.entries.find? known.1 = some item) (noTable : item.isTable = false)
      (inside : [known.1] <+: fragment.path)

/-- Whether a fragment is replaced depends on its place alone. -/
theorem IsReplaced.of_place {other : Fragment} (replaced : IsReplaced document fragment)
    (samePath : other.path = fragment.path) (sameRole : other.role = fragment.role) :
    IsReplaced document other := by
  cases replaced with
  | value isKnown isName inside notKey =>
    exact .value isKnown isName (samePath ▸ inside) (samePath ▸ sameRole ▸ notKey)
  | displaced isKnown found noTable inside =>
    exact .displaced isKnown found noTable (samePath ▸ inside)

/-- Settings have all that a document has, so nothing is removed from it. -/
def Fills (settings : Settings) (document : Toml.Document) : Prop :=
  ∀ part ∈ settings.sections, ∀ item, document.entries.find? part.1 = some item → item.isTable →
    ∀ field ∈ part.2, field.2 = none → item.entries.find? field.1 = none

/-- In a table with distinct names an entry is what its name is found to hold. -/
theorem eq_of_find? (distinct : (entries.map (·.1.name)).Nodup) {entry : Key × Item} {item : Item}
    (isEntry : entry ∈ entries) (found : entries.find? entry.1.name = some item) :
    entry.2 = item := by
  induction entries with
  | nil => cases isEntry
  | cons first rest ih =>
    obtain ⟨key, held⟩ := first
    obtain ⟨isFirst, distinctRest⟩ := List.nodup_cons.mp distinct
    rw [Entries.find?_cons] at found
    rcases List.mem_cons.mp isEntry with rfl | isRest
    · rw [if_pos rfl] at found
      exact Option.some.inj found
    · have isOther : key.name ≠ entry.1.name := fun same =>
        isFirst (List.mem_map.mpr ⟨entry, isRest, same.symm⟩)
      rw [if_neg isOther] at found
      exact ih distinctRest isRest found

/-- A fragment below a table is at one of its entries. -/
theorem mem_entriesFragments_of_path_ne {key : Key} {item : Item} (isTable : item.isTable)
    (isFragment : fragment ∈ item.fragments inBraces base key)
    (isBelow : fragment.path ≠ base ++ [key.name]) :
    ∃ inBraces, fragment ∈ entriesFragments inBraces (base ++ [key.name]) item.entries := by
  have notAround {decor : Decor} {role : Role} :
      fragment ∉ decor.fragments (base ++ [key.name]) role := fun around =>
    isBelow (Decor.place_of_mem_fragments around).1
  cases item with
  | value | tables => cases isTable
  | inlineTable dotted decor padding entries =>
    rw [Item.fragments, List.mem_append] at isFragment
    refine ⟨true, isFragment.resolve_left fun around => ?_⟩
    split at around
    · cases around
    · exact (List.mem_append.mp around).elim notAround notAround
  | table head entries =>
    rw [Item.fragments] at isFragment
    split at isFragment
    · cases isFragment
    · refine ⟨false, (List.mem_append.mp isFragment).resolve_left fun ofHeader => ?_⟩
      split at ofHeader
      · cases ofHeader
      · exact notAround ofHeader

/-- A field whose key has something written around it is there. -/
theorem find?_ne_none_of_mem (distinct : (entries.map (·.1.name)).Nodup)
    (isFragment : fragment ∈ entriesFragments false [] entries) {field : String}
    (isPath : fragment.path = [name, field]) {item : Item}
    (found : entries.find? name = some item) (isTable : item.isTable) :
    item.entries.find? field ≠ none := by
  obtain ⟨entry, isEntry, isName, inEntry⟩ : ∃ entry ∈ entries, entry.1.name = name ∧
      fragment ∈ entry.2.fragments false [] entry.1 :=
    exists_entry_of_path isFragment ⟨[field], isPath.symm⟩
  have isItem : entry.2 = item := eq_of_find? distinct isEntry (isName ▸ found)
  rw [isItem] at inEntry
  obtain ⟨inBraces, inside⟩ := mem_entriesFragments_of_path_ne isTable inEntry (by simp [isPath])
  obtain ⟨holder, isHolder, isField, -⟩ : ∃ holder ∈ item.entries, holder.1.name = field ∧ _ :=
    exists_entry_of_path inside ⟨[], by rw [isPath, isName]; rfl⟩
  obtain ⟨held, isHeld⟩ := exists_find?_of_mem isHolder
  rw [isField] at isHeld
  rw [isHeld]
  exact Option.some_ne_none held

/-- Writing keeps all fragments but those that are replaced. -/
theorem mem_fragments_write (fills : settings.Fills document)
    (sound : entriesSound false document.entries) (isFragment : fragment ∈ document.fragments)
    (kept : ¬ IsReplaced document fragment) : fragment ∈ (settings.write document).fragments := by
  rcases List.mem_append.mp isFragment with inEntries | isEnding
  · refine List.mem_append_left _ ?_
    rw [entries_write]
    refine mem_foldl_editSection settings.nodup_sections (fun part isPart => ?_) inEntries
    have isKnown : (part.1, part.2.map (·.1)) ∈ knownFields := by
      rw [← settings.map_sections]
      exact List.mem_map_of_mem isPart
    have isTable (inSection : [part.1] <+: fragment.path) (item : Item)
        (found : document.entries.find? part.1 = some item) : item.isTable := by
      cases table : item.isTable with
      | true => rfl
      | false => exact absurd (.displaced isKnown found table inSection) kept
    refine ⟨isTable, fun field isField inside => ?_⟩
    have isName : field.1 ∈ part.2.map (·.1) := List.mem_map_of_mem isField
    have isKey : fragment.path = [part.1, field.1] ∧ fragment.role = .key := by
      by_contra notKey
      exact kept (.value isKnown isName inside fun isPath isKey => notKey ⟨isPath, isKey⟩)
    refine ⟨isKey.1, isKey.2, ?_⟩
    cases present : field.2 with
    | some item =>
      obtain ⟨text, data, rfl, -⟩ := setsNew_of_mem_sections isPart field isField item present
      exact ⟨text, data, rfl⟩
    | none =>
      have inSection : [part.1] <+: fragment.path :=
        (List.prefix_append [part.1] [field.1]).trans inside
      obtain ⟨entry, isEntry, isName, -⟩ : ∃ entry ∈ document.entries, entry.1.name = part.1 ∧ _ :=
        exists_entry_of_path inEntries inSection
      obtain ⟨item, found⟩ := exists_find?_of_mem isEntry
      rw [isName] at found
      have hasTable := isTable inSection item found
      exact absurd (fills part isPart item found hasTable field isField present)
        (find?_ne_none_of_mem (entriesSound_iff.mp sound).2 inEntries isKey.1 found hasTable)
  · exact List.mem_append_right _ isEnding

/-! ## Replaced values -/

theorem map_name_update (name : String) (change : Item → Item) (entries : Entries) :
    (entries.update name change).map (·.1.name) = entries.map (·.1.name) := by
  simp [Entries.update]

/-- Opening a table makes no name twice. -/
theorem nodup_openTable (distinct : (entries.map (·.1.name)).Nodup) (name : String) :
    ((entries.openTable name).map (·.1.name)).Nodup := by
  rw [Entries.openTable]
  split
  · split
    · exact distinct
    · refine (congrArg List.Nodup ?_).mpr distinct
      rw [List.map_map]
      refine List.map_congr_left fun entry _ => ?_
      by_cases isName : entry.1.name = name <;> simp [isName]
  · rename_i isMissing
    have isNew : ∀ entry ∈ entries, entry.1.name ≠ name := by
      simpa [Entries.find?] using isMissing
    rw [List.map_append, List.map_singleton]
    refine List.nodup_append.mpr ⟨distinct, List.nodup_singleton _, ?_⟩
    rintro _ isOld _ isLast rfl
    obtain ⟨entry, isEntry, isName⟩ := List.mem_map.mp isOld
    exact isNew entry isEntry (isName.trans (List.mem_singleton.mp isLast))

/-- Writing makes no name twice. -/
theorem nodup_write (distinct : (document.entries.map (·.1.name)).Nodup) :
    ((settings.write document).entries.map (·.1.name)).Nodup := by
  rw [entries_write]
  generalize document.entries = entries at distinct
  induction settings.sections generalizing entries with
  | nil => exact distinct
  | cons part rest ih =>
    refine ih _ ?_
    simp only [editSection, map_name_update]
    exact nodup_openTable distinct part.1

/-- A section is left with its fields assigned, in the table that was there or in one without
entries. -/
theorem exists_find?_write (document : Toml.Document)
    {part : String × List (String × Option Item)} (isPart : part ∈ settings.sections) :
    ∃ item : Item, item.isTable ∧
      (settings.write document).entries.find? part.1 =
        some (item.mapEntries (·.assignAll part.2)) ∧
      ((∀ old, document.entries.find? part.1 = some old → ¬ old.isTable) →
        item = .table {} []) := by
  obtain ⟨before, same, isWritten⟩ := settings.areEdits_sections.exists_find?_foldl
    settings.nodup_sections isPart document.entries
  obtain ⟨item, isTable, isOpened⟩ := Entries.exists_find?_openTable part.1 before
  refine ⟨item, isTable, ?_, fun noTable => ?_⟩
  · rw [entries_write, isWritten, editSection, Entries.find?_update_self, isOpened, Option.map_some]
  · rw [← same] at noTable
    exact Option.some.inj (isOpened.symm.trans (Entries.find?_openTable noTable))

/-- Where a field was assigned, the only comments are those before its key. -/
theorem eq_nil_or_isKey_of_mem_assignAll (distinct : (fields.map (·.1)).Nodup)
    (setsNew : SetsNew fields) {field : String × Option Item} (isField : field ∈ fields)
    (isFragment : fragment ∈ entriesFragments inBraces base (entries.assignAll fields))
    (inside : base ++ [field.1] <+: fragment.path) :
    comments fragment.text.toList = [] ∨
      fragment.path = base ++ [field.1] ∧ fragment.role = .key := by
  obtain ⟨entry, isEntry, isName, inEntry⟩ := exists_entry_of_path isFragment inside
  have stored := (Entries.stores_assignAll distinct entries field isField).only entry isEntry isName
  obtain ⟨text, data, isValue, silent⟩ := setsNew field isField entry.2 stored.symm
  rw [isValue, Item.fragments, List.mem_append, List.mem_append, List.mem_singleton] at inEntry
  rcases inEntry with (ofKey | ofValue) | rfl
  · exact .inr (isName ▸ Decor.place_of_mem_fragments ofKey)
  · cases ofValue
  · exact .inl silent

/-- Entries that were not read from a text. -/
def AreNew (entries : Entries) : Prop := ∀ entry ∈ entries, entry.1.leaf = {} ∧ IsNew entry.2

theorem areNew_assign (areNew : AreNew entries) {item? : Option Item}
    (isNew : ∀ item, item? = some item → IsNew item) (name : String) :
    AreNew (entries.assign name item?) := by
  cases item? with
  | none => exact fun entry isEntry => areNew entry (List.mem_of_mem_filter isEntry)
  | some item =>
    rw [Entries.assign, Entries.set]
    split
    · intro entry isEntry
      obtain ⟨⟨key, old⟩, isOld, rfl⟩ := List.mem_map.mp isEntry
      obtain ⟨noLeaf, isNewOld⟩ := areNew _ isOld
      refine ⟨noLeaf, ?_⟩
      dsimp only
      split
      · exact isNew item rfl
      · exact isNewOld
    · exact List.forall_mem_append.mpr
        ⟨areNew, List.forall_mem_singleton.mpr ⟨rfl, isNew item rfl⟩⟩

theorem areNew_assignAll (areNew : AreNew entries) (setsNew : SetsNew fields) :
    AreNew (entries.assignAll fields) := by
  induction fields generalizing entries with
  | nil => exact areNew
  | cons field rest ih =>
    obtain ⟨isNew, setsNewRest⟩ := List.forall_mem_cons.mp setsNew
    exact ih (areNew_assign areNew isNew field.1) setsNewRest

/-- Entries that were not read from a text have no comments. -/
theorem comments_of_areNew (areNew : AreNew entries)
    (isFragment : fragment ∈ entriesFragments inBraces base entries) :
    comments fragment.text.toList = [] := by
  obtain ⟨⟨key, item⟩, isEntry, inEntry⟩ := exists_of_mem_entriesFragments isFragment
  obtain ⟨noLeaf, text, data, rfl, silent⟩ := areNew _ isEntry
  dsimp only at noLeaf
  rw [Item.fragments, noLeaf, List.mem_append, List.mem_append, List.mem_singleton] at inEntry
  rcases inEntry with (ofKey | ofValue) | rfl
  · cases ofKey
  · cases ofValue
  · exact silent

/-- Below the name of a section stands what was assigned in its table. -/
theorem exists_section_of_mem_write (distinct : (document.entries.map (·.1.name)).Nodup)
    (isFragment : fragment ∈ (settings.write document).fragments)
    {part : String × List (String × Option Item)} (isPart : part ∈ settings.sections)
    (inside : [part.1] <+: fragment.path) :
    ∃ (key : Key) (item : Item), key.name = part.1 ∧ item.isTable ∧
      fragment ∈ (item.mapEntries (·.assignAll part.2)).fragments false [] key ∧
      ((∀ old, document.entries.find? part.1 = some old → ¬ old.isTable) →
        item = .table {} []) := by
  have inEntries : fragment ∈ entriesFragments false [] (settings.write document).entries := by
    refine (List.mem_append.mp isFragment).resolve_right fun isEnding => ?_
    rw [List.mem_singleton.mp isEnding] at inside
    simp at inside
  obtain ⟨entry, isEntry, isName, inEntry⟩ := exists_entry_of_path inEntries inside
  obtain ⟨item, isTable, found, opened⟩ := exists_find?_write document isPart
  have isItem := eq_of_find? (nodup_write distinct) isEntry (isName ▸ found)
  exact ⟨entry.1, item, isName, isTable, isItem ▸ inEntry, opened⟩

/-- No comment is left in a written document where a fragment is replaced. -/
theorem not_isReplaced_of_mem_write (distinct : (document.entries.map (·.1.name)).Nodup)
    (isFragment : fragment ∈ (settings.write document).fragments)
    (hasComment : comments fragment.text.toList ≠ []) : ¬ IsReplaced document fragment := by
  intro replaced
  cases replaced with
  | @value known name isKnown isName inside notKey =>
    rw [← settings.map_sections] at isKnown
    obtain ⟨part, isPart, rfl⟩ := List.mem_map.mp isKnown
    obtain ⟨field, isField, rfl⟩ := List.mem_map.mp isName
    obtain ⟨key, item, isKey, isTable, inItem, -⟩ := exists_section_of_mem_write distinct isFragment
      isPart ((List.prefix_append [part.1] [field.1]).trans inside)
    have isBelow : fragment.path ≠ [] ++ [key.name] := by
      intro atSection
      rw [atSection] at inside
      simpa using inside.length_le
    obtain ⟨inBraces, below⟩ := mem_entriesFragments_of_path_ne
      ((Item.isTable_mapEntries _ _).trans isTable) inItem isBelow
    rw [Item.entries_mapEntries isTable, isKey] at below
    rcases eq_nil_or_isKey_of_mem_assignAll (settings.nodup_fields part isPart)
      (setsNew_of_mem_sections isPart) isField below inside with noComment | atKey
    · exact hasComment noComment
    · exact notKey atKey.1 atKey.2
  | @displaced known old isKnown found noTable inside =>
    rw [← settings.map_sections] at isKnown
    obtain ⟨part, isPart, rfl⟩ := List.mem_map.mp isKnown
    obtain ⟨key, item, -, -, inItem, opened⟩ :=
      exists_section_of_mem_write distinct isFragment isPart inside
    have isOpened : item = .table {} [] := opened fun other isOther => by
      rw [found] at isOther
      rw [← Option.some.inj isOther, noTable]
      exact Bool.false_ne_true
    rw [isOpened, Item.mapEntries, Item.fragments, if_neg Bool.false_ne_true] at inItem
    rcases List.mem_append.mp inItem with ofHeader | below
    · cases ofHeader
    · have areNew := areNew_assignAll (List.forall_mem_nil _) (setsNew_of_mem_sections isPart)
      exact hasComment (comments_of_areNew areNew below)

/-- Writing keeps exactly the comments that are not replaced. -/
theorem mem_comments_write_iff (fills : settings.Fills document)
    (sound : entriesSound false document.entries) {comment : Fragment}
    (isComment : comment ∈ document.comments) :
    comment ∈ (settings.write document).comments ↔ ¬ IsReplaced document comment := by
  constructor
  · intro isLeft
    obtain ⟨fragment, isFragment, inFragment⟩ := List.mem_flatMap.mp isLeft
    obtain ⟨written, isWritten, rfl⟩ := List.mem_map.mp inFragment
    have kept := not_isReplaced_of_mem_write (entriesSound_iff.mp sound).2 isFragment
      (List.ne_nil_of_mem isWritten)
    exact fun replaced => kept (replaced.of_place rfl rfl)
  · intro kept
    obtain ⟨fragment, isFragment, inFragment⟩ := List.mem_flatMap.mp isComment
    obtain ⟨written, isWritten, rfl⟩ := List.mem_map.mp inFragment
    have stays := mem_fragments_write fills sound isFragment fun replaced =>
      kept (replaced.of_place rfl rfl)
    exact List.mem_flatMap.mpr ⟨fragment, stays, inFragment⟩

/-! ## Loaded settings -/

/-- A change of loaded settings before they are saved. -/
inductive Edit where
  | core (update : CoreUpdate)
  | api (update : ApiUpdate)
  | mock (update : MockUpdate)
  | record (source : String)

/-- The settings after a change. -/
def Edit.apply (settings : Settings) : Edit → Settings
  | .core update => settings.mergeCore update
  | .api update => settings.mergeApi update
  | .mock update => settings.mergeMock update
  | .record source => settings.recordSource source

/-- Headers that were there are not taken away. -/
structure KeepsHeaders (before after : Settings) : Prop where
  ts : after.api.headerTs? = none → before.api.headerTs? = none
  js : after.api.headerJs? = none → before.api.headerJs? = none

theorem keepsHeaders_apply (settings : Settings) (edit : Edit) :
    KeepsHeaders settings (edit.apply settings) := by
  cases edit with
  | core update | mock update => exact ⟨id, id⟩
  | api update =>
    refine ⟨fun isNone => ?_, fun isNone => ?_⟩
    · exact (Option.or_eq_none_iff.mp isNone).2
    · exact (Option.or_eq_none_iff.mp isNone).2
  | record source =>
    rw [Edit.apply, recordSource]
    dsimp only
    split <;> exact ⟨id, id⟩

theorem keepsHeaders_edits (settings : Settings) (edits : List Edit) :
    KeepsHeaders settings (edits.foldl Edit.apply settings) := by
  induction edits generalizing settings with
  | nil => exact ⟨id, id⟩
  | cons edit rest ih =>
    have first := keepsHeaders_apply settings edit
    have others := ih (edit.apply settings)
    exact ⟨first.ts ∘ others.ts, first.js ∘ others.js⟩

theorem data_ne_null {item : Item} (sound : item.IsSound inBraces) : item.data ≠ .null := by
  cases item with
  | value decor text data => exact sound
  | inlineTable | table | tables => simp [Item.data]

theorem exists_sound_entries {item : Item} (sound : item.IsSound inBraces)
    (isTable : item.isTable) : ∃ inBraces, entriesSound inBraces item.entries := by
  cases item with
  | value | tables => cases isTable
  | inlineTable dotted decor padding entries => exact ⟨true, sound⟩
  | table head entries => exact ⟨false, sound.2⟩

/-- Reading takes a header from the table of its section. -/
theorem headers_of_ofData? {members : List (String × Json)} {api : ApiSettings}
    (read : ApiSettings.ofData? .ignored (.object members) = some api) :
    Record.field (members.lookup ·) "header_ts" none (Record.nullable Json.string?) =
        some api.headerTs? ∧
      Record.field (members.lookup ·) "header_js" none (Record.nullable Json.string?) =
        some api.headerJs? := by
  simp only [ApiSettings.ofData?, Record.fields?, Option.bind_eq_bind, Option.bind_some] at read
  obtain ⟨_, -, read⟩ := Option.bind_eq_some_iff.mp read
  obtain ⟨_, -, read⟩ := Option.bind_eq_some_iff.mp read
  obtain ⟨_, -, read⟩ := Option.bind_eq_some_iff.mp read
  obtain ⟨headerTs?, readTs, read⟩ := Option.bind_eq_some_iff.mp read
  obtain ⟨headerJs?, readJs, read⟩ := Option.bind_eq_some_iff.mp read
  obtain ⟨_, -, read⟩ := Option.bind_eq_some_iff.mp read
  obtain ⟨_, -, read⟩ := Option.bind_eq_some_iff.mp read
  obtain ⟨_, -, read⟩ := Option.bind_eq_some_iff.mp read
  obtain ⟨_, -, read⟩ := Option.bind_eq_some_iff.mp read
  cases read
  exact ⟨readTs, readJs⟩

/-- A header that is not read is not there. -/
theorem find?_eq_none_of_field (sound : entriesSound inBraces entries)
    (read : Record.field ((entriesData entries).lookup ·) name none
      (Record.nullable Json.string?) = some none) : entries.find? name = none := by
  cases found : entries.find? name with
  | none => rfl
  | some item =>
    rw [Record.field, Entries.lookup_entriesData, found, Option.map_some] at read
    dsimp only at read
    have notNull := data_ne_null (sound_of_find? sound found)
    unfold Record.nullable at read
    split at read
    · rename_i isNull
      exact absurd isNull notNull
    · obtain ⟨text, -, isText⟩ := Option.map_eq_some_iff.mp read
      cases isText

/-- Settings that were loaded from a document fill it after any changes. -/
theorem fills_of_read? (sound : entriesSound false document.entries)
    (isRead : read? document = some loaded) (keeps : KeepsHeaders loaded settings) :
    settings.Fills document := by
  intro part isPart item found isTable field isField absent
  simp only [read?, Toml.Document.data, ofData?, Record.fields?, Option.bind_eq_bind,
    Option.bind_some] at isRead
  obtain ⟨core, -, isRead⟩ := Option.bind_eq_some_iff.mp isRead
  obtain ⟨api, readApi, isRead⟩ := Option.bind_eq_some_iff.mp isRead
  obtain ⟨mock, -, isRead⟩ := Option.bind_eq_some_iff.mp isRead
  cases isRead
  simp only [sections, List.mem_cons, List.not_mem_nil, or_false] at isPart
  rcases isPart with rfl | rfl | rfl
  · simp only [coreFields, List.mem_cons, List.not_mem_nil, or_false] at isField
    rcases isField with rfl | rfl | rfl | rfl | rfl
    all_goals cases absent
  · obtain ⟨isInside, soundInside⟩ := exists_sound_entries (sound_of_find? sound found) isTable
    rw [Record.field, Entries.lookup_entriesData, found, Option.map_some,
      Item.data_of_isTable isTable] at readApi
    obtain ⟨readTs, readJs⟩ := headers_of_ofData? readApi
    simp only [apiFields, List.mem_cons, List.not_mem_nil, or_false] at isField
    rcases isField with rfl | rfl | rfl | rfl | rfl | rfl | rfl | rfl | rfl
    case inr.inr.inr.inl =>
      rw [keeps.ts (Option.map_eq_none_iff.mp absent)] at readTs
      exact find?_eq_none_of_field soundInside readTs
    case inr.inr.inr.inr.inl =>
      rw [keeps.js (Option.map_eq_none_iff.mp absent)] at readJs
      exact find?_eq_none_of_field soundInside readJs
    all_goals cases absent
  · simp only [mockFields, List.mem_cons, List.not_mem_nil, or_false] at isField
    rcases isField with rfl | rfl
    all_goals cases absent

/-! ## A file with notes -/

/-- Settings with a note of their own and a note at the end of a line. -/
def notedFile : String := "# mine\n[core]\nlang = \"ts\" # note\n"

/-- The line of the second note, as it is read. -/
def notedValue : Item := .value ⟨some " ", some " # note"⟩ "\"ts\"" (.string "ts")

/-- What is read of the file with notes. -/
def notedDocument : Toml.Document where
  entries :=
    [(.bare "core" "" "", .table { decor := ⟨some "# mine\n", some ""⟩, position := some 1 }
      [(.bare "lang" "" " ", notedValue)])]

theorem pair?_noted : pair? "" "lang = \"ts\" # note\n".toList =
    some (.pair [] (.bare "lang" "" " ") notedValue, []) := by
  -- The fuel of the value grows with its text, which is made explicit first.
  have path : keyPath? "" "lang = \"ts\" # note\n".toList =
      some ([], .bare "lang" "" " ", '=' :: " \"ts\" # note\n".toList) := by
    rfl
  rw [pair?, path]
  rfl

theorem statements?_noted (fuel : Nat) : statements? (fuel + 3) notedFile.toList =
    some ([.header false ⟨some "# mine\n", some ""⟩ [] (.bare "core" "" ""),
      .pair [] (.bare "lang" "" " ") notedValue], "") := by
  have atHeader : skipTrivia? false notedFile.toList =
      some ('[' :: "core]\nlang = \"ts\" # note\n".toList) := by
    rfl
  have mine : taken notedFile.toList ('[' :: "core]\nlang = \"ts\" # note\n".toList) =
      "# mine\n" := by
    rfl
  have header : header? "# mine\n" "core]\nlang = \"ts\" # note\n".toList =
      some (.header false ⟨some "# mine\n", some ""⟩ [] (.bare "core" "" ""),
        "lang = \"ts\" # note\n".toList) := by
    rfl
  have atPair : skipTrivia? false "lang = \"ts\" # note\n".toList =
      some ('l' :: "ang = \"ts\" # note\n".toList) := by
    rfl
  have nothing : taken "lang = \"ts\" # note\n".toList ('l' :: "ang = \"ts\" # note\n".toList) =
      "" := by
    rfl
  rw [statements?_of_header atHeader mine header,
    statements?_of_pair atPair (by decide) nothing pair?_noted]
  rfl

theorem document_noted : Toml.Document.parse? notedFile = some notedDocument := by
  have sameLines : joinLineEnds notedFile.toList = notedFile.toList := by rfl
  have noMark : notedFile.toList.head? ≠ some '\ufeff' := by decide
  have length : notedFile.toList.length + 1 = 31 + 3 := by rfl
  simp only [Toml.Document.parse?, sameLines, if_neg noMark, length, statements?_noted,
    Option.bind_eq_bind, Option.bind_some]
  rfl

theorem settings_noted : parse? notedFile = some {} := by
  rw [parse?, document_noted]
  rfl

/-! ## Saved files -/

/-- Saving keeps exactly the comments of the file that do not belong to the value of a setting or to
what stands in the place of a section. -/
theorem save_keeps_comments {text : String} (accepted : parse? text = some loaded)
    (edits : List Edit) :
    ∃ document, Toml.Document.parse? text = some document ∧
      (document.comments.map (·.text)).Perm (comments (joinLineEnds text.toList)) ∧
      ∀ comment ∈ document.comments,
        (comment ∈ ((edits.foldl Edit.apply loaded).write document).comments ↔
          ¬ IsReplaced document comment) ∧
        (¬ IsReplaced document comment →
          Within comment.text ((edits.foldl Edit.apply loaded).save (some text))) := by
  obtain ⟨document, parsed, isRead⟩ := Option.bind_eq_some_iff.mp accepted
  obtain ⟨sound, found⟩ := Toml.Document.comments_of_parse? parsed
  refine ⟨document, parsed, document.map_text_comments ▸ found, fun comment isComment => ?_⟩
  have fills := fills_of_read? sound isRead (keepsHeaders_edits loaded edits)
  have stays := mem_comments_write_iff fills sound isComment
  refine ⟨stays, fun kept => ?_⟩
  rw [save, Option.bind_some, parsed, Option.getD_some]
  exact Toml.Document.within_text_of_mem_comments (stays.mpr kept)

/-- What a file with notes keeps when another source is recorded and mock bodies are wrapped. -/
theorem save_keeps_comments_noted :
    parse? notedFile = some {} ∧
      ∃ document, Toml.Document.parse? notedFile = some document ∧
        (document.comments.map (·.text)).Perm (comments (joinLineEnds notedFile.toList)) ∧
        ∀ comment ∈ document.comments,
          (comment ∈ (([Edit.record "pets.json", .mock { wrap := some true }].foldl Edit.apply
              ({} : Settings)).write document).comments ↔ ¬ IsReplaced document comment) ∧
          (¬ IsReplaced document comment →
            Within comment.text (([Edit.record "pets.json", .mock { wrap := some true }].foldl
              Edit.apply ({} : Settings)).save (some notedFile))) :=
  ⟨settings_noted, save_keeps_comments settings_noted _⟩

/-- A note at the end of the line of a setting is gone when the settings are saved as they are. -/
theorem save_loses_note :
    parse? notedFile = some {} ∧
      comments (joinLineEnds notedFile.toList) = ["# mine", "# note"] ∧
      comments (({} : Settings).save (some notedFile)).toList = ["# mine"] := by
  refine ⟨settings_noted, by decide, ?_⟩
  obtain ⟨core, api, mock, isWritten, isPlaced, ⟨isCore, isApi, isMock⟩, headers, found⟩ :
      ∃ core api mock : Section,
        entrySections [] (({} : Settings).write notedDocument).entries = [core, api, mock] ∧
          place 0 [core, api, mock] = [(1, core), (1, api), (1, mock)] ∧
          (core.head.implicit = false ∧ api.head.implicit = false ∧ mock.head.implicit = false) ∧
          (core.hasHeader ∧ api.hasHeader ∧ mock.hasHeader) ∧
          comments (({ core with lines := [] }.text true).toList ++
              (core.lines.flatMap fun line => (linesText [line]).toList) ++
            (({ api with lines := [] }.text false).toList ++
              (api.lines.flatMap fun line => (linesText [line]).toList) ++
            (({ mock with lines := [] }.text false).toList ++
              mock.lines.flatMap fun line => (linesText [line]).toList))) = ["# mine"] := by
    refine ⟨_, _, _, rfl, rfl, ⟨rfl, rfl, rfl⟩, ⟨rfl, rfl, rfl⟩, ?_⟩
    decide +kernel
  have unmoved : [(1, core), (1, api), (1, mock)].mergeSort (fun a b => decide (a.1 ≤ b.1)) =
      [(1, core), (1, api), (1, mock)] :=
    List.mergeSort_of_pairwise (by simp)
  have noValue : entryLines [] (({} : Settings).write notedDocument).entries = [] := by rfl
  have noEnding : (({} : Settings).write notedDocument).trailing = "" := by rfl
  rw [← Section.toList_text isCore, ← Section.toList_text isApi, ← Section.toList_text isMock]
    at found
  rw [save, Option.bind_some, document_noted, Option.getD_some, Toml.Document.text]
  simp [isWritten, isPlaced, unmoved, noValue, noEnding, sectionsText, linesText, headers, found]

end TypedClient.Settings
