/-
# Saving settings

Saving and reading are written apart: one sets entries of a document, the other looks members up in
what the document stands for. They fit together over every document, whatever its user made of it.
All settings come back, all that settings do not know stays, and saving again changes nothing.
-/

import TypedClient.Proofs.Toml.Entries
import TypedClient.Settings.File

namespace TypedClient.Settings

open Toml Record

/-! ## Settings as fields -/

/-- The core settings as fields of their section. -/
def coreFields (core : CoreSettings) : List (String × Option Item) :=
  [("source", textItem core.source), ("lang", textItem core.language),
    ("template", textItem core.template), ("naming", textItem core.naming),
    ("type_only", boolItem core.typeOnly)]

/-- The settings of the request module as fields of their section; an absent one is removed. -/
def apiFields (api : ApiSettings) : List (String × Option Item) :=
  [("root", textItem api.root), ("cookie", textItem api.cookie),
    ("previous_source", textItem api.previousSource), ("header_ts", api.headerTs?.map textItem),
    ("header_js", api.headerJs?.map textItem),
    ("interface_import_path", textItem api.interfaceImportPath),
    ("formatter", textItem api.formatter), ("substitutions", rulesItem api.substitutions),
    ("api_choices", textsItem api.tags)]

/-- The mock settings as fields of their section. -/
def mockFields (mock : MockSettings) : List (String × Option Item) :=
  [("root", textItem mock.root), ("wrap", boolItem mock.wrap)]

/-- The sections with their fields. -/
def sections (settings : Settings) : List (String × List (String × Option Item)) :=
  [("core", coreFields settings.core), ("api", apiFields settings.api),
    ("mock", mockFields settings.mock)]

/-- The sections with the names of the fields that settings know. -/
def knownFields : List (String × List String) :=
  [("core", ["source", "lang", "template", "naming", "type_only"]),
    ("api", ["root", "cookie", "previous_source", "header_ts", "header_js",
      "interface_import_path", "formatter", "substitutions", "api_choices"]),
    ("mock", ["root", "wrap"])]

theorem setOptional_eq (name : String) (text? : Option String) (entries : Entries) :
    setOptional name text? entries = entries.assign name (text?.map textItem) := by
  cases text? <;> rfl

theorem writeApi_eq (api : ApiSettings) (entries : Entries) :
    writeApi api entries = entries.assignAll (apiFields api) := by
  rw [writeApi, setOptional_eq, setOptional_eq]
  rfl

/-- Writing settings is writing the fields of each section. -/
theorem entries_write (settings : Settings) (document : Toml.Document) :
    (settings.write document).entries = settings.sections.foldl
      (fun entries part => editSection part.1 (·.assignAll part.2) entries) document.entries := by
  have isApi : writeApi settings.api = (·.assignAll (apiFields settings.api)) :=
    funext (writeApi_eq settings.api)
  rw [write, isApi]
  rfl

/-- What settings know does not depend on their values. -/
theorem map_sections (settings : Settings) :
    settings.sections.map (fun part => (part.1, part.2.map (·.1))) = knownFields := rfl

/-! ## Edited sections -/

variable {name : String} {names : List String} {fields : List (String × Option Item)}
  {change : Entries → Entries} {entries after : Entries} {item : Item}

/-- Only the entries of the section are touched. -/
theorem without_editSection (isNamed : name ∈ names) (change : Entries → Entries)
    (entries : Entries) :
    (editSection name change entries).without names = entries.without names :=
  (Entries.without_update isNamed _ _).trans (Entries.without_openTable isNamed entries)

/-- A section that is a table stays this table, in its form and under its key. -/
theorem find?_editSection_of_isTable (found : entries.find? name = some item)
    (isTable : item.isTable) :
    (editSection name change entries).find? name = some (item.mapEntries change) := by
  rw [editSection, Entries.openTable_eq_self found isTable, Entries.find?_update_self, found,
    Option.map_some]

/-- A name holds a table, and the fields of the tables that it holds are up to date. -/
structure IsWritten (name : String) (fields : List (String × Option Item)) (entries : Entries) :
    Prop where
  found : ∃ item : Item, item.isTable ∧ entries.find? name = some item
  only : ∀ entry ∈ entries, entry.1.name = name →
    entry.2.mapEntries (·.assignAll fields) = entry.2

namespace IsWritten

theorem editSection (distinct : (fields.map (·.1)).Nodup) (name : String) (entries : Entries) :
    IsWritten name fields (editSection name (·.assignAll fields) entries) where
  found := by
    obtain ⟨item, isTable, isOpened⟩ := Entries.exists_find?_openTable name entries
    refine ⟨item.mapEntries (·.assignAll fields), by rwa [Item.isTable_mapEntries], ?_⟩
    rw [Settings.editSection, Entries.find?_update_self, isOpened, Option.map_some]
  only entry isEntry isName := by
    obtain ⟨⟨key, item⟩, -, rfl⟩ := List.mem_map.mp isEntry
    have again : (·.assignAll fields) ∘ (·.assignAll fields) = (Entries.assignAll fields ·) :=
      funext (Entries.assignAll_assignAll distinct)
    have isKey : key.name = name := isName
    simp only [isKey, if_true, Item.mapEntries_mapEntries]
    rw [again]

/-- What keeps all entries but some does not touch another section. -/
theorem of_without_eq (written : IsWritten name fields entries)
    (same : after.without names = entries.without names) (isOther : name ∉ names) :
    IsWritten name fields after where
  found := by rw [Entries.find?_of_without_eq same isOther]; exact written.found
  only entry isEntry isName :=
    written.only entry (Entries.mem_of_without_eq same isEntry (isName ▸ isOther)) isName

/-- To write a section once more changes nothing. -/
theorem editSection_eq_self (written : IsWritten name fields entries) :
    Settings.editSection name (·.assignAll fields) entries = entries := by
  obtain ⟨item, isTable, found⟩ := written.found
  rw [Settings.editSection, Entries.openTable_eq_self found isTable]
  exact Entries.update_eq_self written.only

/-- A written section stands for an object with the fields as members. -/
theorem lookup_entriesData (written : IsWritten name fields entries)
    (distinct : (fields.map (·.1)).Nodup) :
    ∃ members, (entriesData entries).lookup name = some (.object members) ∧
      ∀ field ∈ fields, members.lookup field.1 = field.2.map Item.data := by
  obtain ⟨item, isTable, found⟩ := written.found
  obtain ⟨entry, isFound, rfl⟩ := Option.map_eq_some_iff.mp found
  have upToDate := written.only entry (List.mem_of_find?_eq_some isFound)
    (by simpa using List.find?_some isFound)
  have stored := Entries.stores_assignAll distinct entry.2.entries
  rw [← Item.entries_mapEntries isTable (·.assignAll fields), upToDate] at stored
  refine ⟨entriesData entry.2.entries, ?_, fun field isField => ?_⟩
  · rw [Entries.lookup_entriesData, found, Option.map_some, Item.data_of_isTable isTable]
  · rw [Entries.lookup_entriesData, (stored field isField).found]

end IsWritten

/-! ## All sections -/

/-- The fields of each section have distinct names. -/
theorem nodup_fields (settings : Settings) :
    ∀ part ∈ settings.sections, (part.2.map (·.1)).Nodup := by
  have areKnown : ∀ known ∈ knownFields, known.2.Nodup := by decide
  intro part isPart
  rw [← settings.map_sections] at areKnown
  exact areKnown _ (List.mem_map_of_mem isPart)

/-- The sections have distinct names. -/
theorem nodup_sections (settings : Settings) : (settings.sections.map (·.1)).Nodup := by
  have distinct : (knownFields.map (·.1)).Nodup := by decide
  rwa [← settings.map_sections, List.map_map] at distinct

theorem areEdits_sections (settings : Settings) :
    Entries.AreEdits (·.1) (fun part => editSection part.1 (·.assignAll part.2))
      (fun part => IsWritten part.1 part.2) settings.sections where
  passes _ _ _ entries isNamed := without_editSection isNamed _ entries
  done part isPart entries := .editSection (settings.nodup_fields part isPart) part.1 entries
  stays _ _ _ _ _ isOther same written := written.of_without_eq same isOther
  settled _ _ _ written := written.editSection_eq_self

/-- Every section is up to date after writing. -/
theorem isWritten_write (settings : Settings) (document : Toml.Document) :
    ∀ part ∈ settings.sections, IsWritten part.1 part.2 (settings.write document).entries := by
  rw [entries_write]
  exact settings.areEdits_sections.done_foldl settings.nodup_sections document.entries

theorem write_write (settings : Settings) (document : Toml.Document) :
    settings.write (settings.write document) = settings.write document := by
  have same := settings.areEdits_sections.foldl_eq_self (settings.isWritten_write document)
  rw [← entries_write] at same
  exact congrArg (fun entries => { settings.write document with entries }) same

/-! ## Reading back -/

/-- A list of values is read back if each value is. -/
theorem list?_map {α : Type} (write : α → Json) {read : Json → Option α}
    (back : ∀ a, read (write a) = some a) (values : List α) :
    list? read (.array (values.map write)) = some values := by
  rw [list?]
  induction values with
  | nil => rfl
  | cons value rest ih =>
    rw [List.map_cons, List.mapM_cons, back, ih]
    rfl

/-- A text that may be absent is read back from its field. -/
theorem field_nullable (text? : Option String) (fields : Fields) (name : String)
    (stored : fields name = (text?.map textItem).map Item.data) :
    field fields name none (nullable Json.string?) = some text? := by
  rw [field, stored]
  cases text? <;> rfl

theorem ofData?_core {core : CoreSettings} {members : List (String × Json)}
    (stored : ∀ field ∈ coreFields core, members.lookup field.1 = field.2.map Item.data) :
    CoreSettings.ofData? .ignored (.object members) = some core := by
  simp only [coreFields, List.forall_mem_cons] at stored
  obtain ⟨source, language, template, naming, typeOnly, -⟩ := stored
  simp only [CoreSettings.ofData?, fields?, Option.bind_eq_bind, Option.bind_some, field, source,
    language, template, naming, typeOnly, Option.map_some]
  rfl

theorem ofData?_api {api : ApiSettings} {members : List (String × Json)}
    (stored : ∀ field ∈ apiFields api, members.lookup field.1 = field.2.map Item.data) :
    ApiSettings.ofData? .ignored (.object members) = some api := by
  simp only [apiFields, List.forall_mem_cons] at stored
  obtain ⟨root, cookie, previousSource, headerTs, headerJs, interfaceImportPath, formatter,
    substitutions, tags, -⟩ := stored
  have readRules : list? (Substitution.ofData? .ignored) (rulesItem api.substitutions).data =
      some api.substitutions := list?_map ruleData (fun _ => rfl) api.substitutions
  have readTags : list? Json.string? (textsItem api.tags).data = some api.tags :=
    list?_map .string (fun _ => rfl) api.tags
  simp only [ApiSettings.ofData?, fields?, Option.bind_eq_bind, Option.bind_some]
  rw [field_nullable _ _ _ headerTs, field_nullable _ _ _ headerJs]
  simp only [field, root, cookie, previousSource, interfaceImportPath, formatter, substitutions,
    tags, Option.map_some, readRules, readTags]
  rfl

theorem ofData?_mock {mock : MockSettings} {members : List (String × Json)}
    (stored : ∀ field ∈ mockFields mock, members.lookup field.1 = field.2.map Item.data) :
    MockSettings.ofData? .ignored (.object members) = some mock := by
  simp only [mockFields, List.forall_mem_cons] at stored
  obtain ⟨root, wrap, -⟩ := stored
  simp only [MockSettings.ofData?, fields?, Option.bind_eq_bind, Option.bind_some, field, root,
    wrap, Option.map_some]
  rfl

/-- Settings are read from a document whose sections have them as members. -/
theorem read?_of_stored {settings : Settings} {document : Toml.Document}
    (stored : ∀ part ∈ settings.sections, ∃ members,
      (entriesData document.entries).lookup part.1 = some (.object members) ∧
        ∀ field ∈ part.2, members.lookup field.1 = field.2.map Item.data) :
    read? document = some settings := by
  simp only [sections, List.forall_mem_cons] at stored
  obtain ⟨⟨coreMembers, core, isCore⟩, ⟨apiMembers, api, isApi⟩, ⟨mockMembers, mock, isMock⟩, -⟩ :=
    stored
  simp only [read?, Toml.Document.data, ofData?, fields?, Option.bind_eq_bind, Option.bind_some,
    field, core, api, mock, ofData?_core isCore, ofData?_api isApi, ofData?_mock isMock]

/-- The sections of a written document have the settings as members. -/
theorem lookup_write (settings : Settings) (document : Toml.Document) :
    ∀ part ∈ settings.sections, ∃ members,
      (entriesData (settings.write document).entries).lookup part.1 = some (.object members) ∧
        ∀ field ∈ part.2, members.lookup field.1 = field.2.map Item.data :=
  fun part isPart => (settings.isWritten_write document part isPart).lookup_entriesData
    (settings.nodup_fields part isPart)

/-- What was written is read. -/
theorem read?_write (settings : Settings) (document : Toml.Document) :
    read? (settings.write document) = some settings :=
  read?_of_stored (settings.lookup_write document)

/-- What is saved to a file is read from it, if the text of the document is read as a document that
stands for the same. -/
theorem parse?_save (settings : Settings) (file : Option String) {document : Toml.Document}
    (parsed : Toml.Document.parse? (settings.save file) = some document)
    (same : document.data = (settings.write ((file.bind Toml.Document.parse?).getD {})).data) :
    parse? (settings.save file) = some settings := by
  rw [parse?, parsed]
  exact (congrArg (ofData? .ignored) same).trans (settings.read?_write _)

/-! ## What stays -/

/-- Nothing but the sections is touched. -/
theorem without_write (settings : Settings) (document : Toml.Document) :
    (settings.write document).entries.without (knownFields.map (·.1)) =
      document.entries.without (knownFields.map (·.1)) := by
  rw [entries_write, ← settings.map_sections, List.map_map]
  exact settings.areEdits_sections.without_foldl (fun _ isPart => List.mem_map_of_mem isPart) _

/-- A section that is a table keeps its form and the entries that settings do not know. -/
theorem find?_write_of_isTable (settings : Settings) {document : Toml.Document}
    {known : String × List String} (isKnown : known ∈ knownFields) {item : Item}
    (found : document.entries.find? known.1 = some item) (isTable : item.isTable) :
    ∃ kept : Entries, kept.without known.2 = item.entries.without known.2 ∧
      (settings.write document).entries.find? known.1 = some (item.mapEntries fun _ => kept) := by
  rw [← settings.map_sections] at isKnown
  obtain ⟨part, isPart, rfl⟩ := List.mem_map.mp isKnown
  obtain ⟨before, same, isWritten⟩ := settings.areEdits_sections.exists_find?_foldl
    settings.nodup_sections isPart document.entries
  refine ⟨item.entries.assignAll part.2,
    Entries.without_assignAll (fun _ isField => List.mem_map_of_mem isField) _, ?_⟩
  rw [entries_write, isWritten, find?_editSection_of_isTable (same.trans found) isTable]
  cases item with
  | value | tables => cases isTable
  | inlineTable | table => rfl

/-- Saving and reading lose nothing, whatever document is edited: all settings are read back, no
other entry is touched at the top or in a section that was a table, and writing the same settings
again changes nothing. -/
theorem write_lossless (settings : Settings) (document : Toml.Document) :
    read? (settings.write document) = some settings ∧
    (settings.write document).entries.without (knownFields.map (·.1)) =
      document.entries.without (knownFields.map (·.1)) ∧
    (∀ known ∈ knownFields, ∀ item : Item,
      document.entries.find? known.1 = some item → item.isTable →
      ∃ kept : Entries, kept.without known.2 = item.entries.without known.2 ∧
        (settings.write document).entries.find? known.1 =
          some (item.mapEntries fun _ => kept)) ∧
    settings.write (settings.write document) = settings.write document :=
  ⟨settings.read?_write document, settings.without_write document,
    fun _ isKnown _ found isTable => settings.find?_write_of_isTable isKnown found isTable,
    settings.write_write document⟩

/-- A document whose user wrote one section in braces and put other things in place of the rest. -/
def editedDocument : Toml.Document where
  entries :=
    [({ name := "theme" }, textItem "dark"),
      ({ name := "core" }, .inlineTable false {} ""
        [({ name := "color" }, boolItem true), ({ name := "lang" }, boolItem false)]),
      ({ name := "api" }, .tables [({}, [])]), ({ name := "mock" }, boolItem true)]

/-- The section in braces stays one, with the entry that its user added. -/
theorem write_lossless_edited :
    read? (({} : Settings).write editedDocument) = some {} ∧
    ∃ kept : Entries,
      kept.without ["source", "lang", "template", "naming", "type_only"] =
        [({ name := "color" }, boolItem true)] ∧
      (({} : Settings).write editedDocument).entries.find? "core" =
        some (.inlineTable false {} "" kept) := by
  obtain ⟨reads, -, keeps, -⟩ := write_lossless {} editedDocument
  obtain ⟨kept, isKept, found⟩ := keeps _ List.mem_cons_self _ rfl rfl
  exact ⟨reads, kept, isKept, found⟩

end TypedClient.Settings
