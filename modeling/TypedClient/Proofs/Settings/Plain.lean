/-
# Settings files that only runs have written

A settings file that no user has edited is a plain document, and it stays one: its text depends
on the settings alone, not on how often it was saved before. Such a text is read back as the
settings that it was made of.
-/

import TypedClient.Proofs.Settings.Saving
import TypedClient.Proofs.Toml.Values

namespace TypedClient.Settings

open Toml

variable {settings earlier : Settings}

/-! ## Tables -/

/-- The settings that no flag changes are as at first. -/
structure IsPlain (settings : Settings) : Prop where
  noHeaderTs : settings.api.headerTs? = none
  noHeaderJs : settings.api.headerJs? = none
  noRules : settings.api.substitutions = []

/-- A pair that holds a text. -/
def textPair (name s : String) : PlainPair := ⟨name, quote s, .string s⟩

/-- A pair that holds a truth value. -/
def boolPair (name : String) (b : Bool) : PlainPair :=
  ⟨name, if b then "true" else "false", .bool b⟩

/-- A pair that holds a list of texts. -/
def textsPair (name : String) (texts : List String) : PlainPair :=
  ⟨name, "[" ++ String.intercalate ", " (texts.map quote) ++ "]", .array (texts.map .string)⟩

/-- The tables of settings, without headers of requests and replacements. -/
def tables (settings : Settings) : List PlainTable :=
  [⟨"core",
      [textPair "source" settings.core.source, textPair "lang" settings.core.language,
        textPair "template" settings.core.template, textPair "naming" settings.core.naming,
        boolPair "type_only" settings.core.typeOnly]⟩,
    ⟨"api",
      [textPair "root" settings.api.root, textPair "cookie" settings.api.cookie,
        textPair "previous_source" settings.api.previousSource,
        textPair "interface_import_path" settings.api.interfaceImportPath,
        textPair "formatter" settings.api.formatter, textsPair "substitutions" [],
        textsPair "api_choices" settings.api.tags]⟩,
    ⟨"mock", [textPair "root" settings.mock.root, boolPair "wrap" settings.mock.wrap]⟩]

/-- The names of the tables and of the pairs in each. -/
def plainNames : List (String × List String) :=
  [("core", ["source", "lang", "template", "naming", "type_only"]),
    ("api", ["root", "cookie", "previous_source", "interface_import_path", "formatter",
      "substitutions", "api_choices"]),
    ("mock", ["root", "wrap"])]

theorem map_tables (settings : Settings) :
    settings.tables.map (fun table => (table.name, table.pairs.map (·.name))) = plainNames := rfl

/-- The values of the pairs are read back. -/
theorem readsAs_tables (settings : Settings) :
    ∀ table ∈ settings.tables, ∀ pair ∈ table.pairs,
      ReadsAs pair.text pair.data ∧ '\r' ∉ pair.text.toList := by
  have text (name s : String) : ReadsAs (textPair name s).text (textPair name s).data ∧
      '\r' ∉ (textPair name s).text.toList := ⟨readsAs_quote s, noReturn_quote s⟩
  have bool (name : String) (b : Bool) : ReadsAs (boolPair name b).text (boolPair name b).data ∧
      '\r' ∉ (boolPair name b).text.toList := ⟨readsAs_bool b, by cases b <;> simp [boolPair]⟩
  have texts (name : String) (tags : List String) :
      ReadsAs (textsPair name tags).text (textsPair name tags).data ∧
        '\r' ∉ (textsPair name tags).text.toList := ⟨readsAs_texts tags, noReturn_texts tags⟩
  simp [tables, text, bool, texts]

/-- The names of tables and pairs are bare, and those of a table are distinct. -/
theorem bare_plainNames :
    ∀ known ∈ plainNames, (∀ name ∈ known.1 :: known.2,
      name.toList ≠ [] ∧ name.toList.all isBareKeyChar = true) ∧ known.2.Nodup := by
  decide

theorem isReadable_tables (settings : Settings) :
    ∀ table ∈ settings.tables, table.IsReadable := by
  intro table isTable
  have isKnown := List.mem_map_of_mem (f := fun table : PlainTable =>
    (table.name, table.pairs.map (·.name))) isTable
  rw [map_tables] at isKnown
  obtain ⟨bare, distinct⟩ := bare_plainNames _ isKnown
  have isBare (name : String) (isName : name ∈ table.name :: table.pairs.map (·.name)) :
      IsBare name := ⟨(bare name isName).1, List.all_eq_true.mp (bare name isName).2⟩
  refine ⟨isBare _ List.mem_cons_self, fun pair isPair => ?_, distinct⟩
  obtain ⟨readsAs, noReturn⟩ := settings.readsAs_tables table isTable pair isPair
  exact ⟨isBare _ (List.mem_cons_of_mem _ (List.mem_map_of_mem isPair)), readsAs, noReturn⟩

/-! ## Saving -/

/-- The text of a settings file that only runs have written. -/
def plainText (settings : Settings) : String :=
  String.ofList (PlainTable.textFrom [] settings.tables)

theorem write_empty (isPlain : settings.IsPlain) :
    settings.write {} = PlainTable.document ⟨false, false⟩ settings.tables := by
  obtain ⟨core, api, mock⟩ := settings
  obtain ⟨root, cookie, previous, headerTs?, headerJs?, path, formatter, substitutions, tags⟩ := api
  obtain ⟨rfl, rfl, rfl⟩ := isPlain
  rfl

/-- Saving replaces the values of a plain document under the keys it has. -/
theorem write_document (isPlain : settings.IsPlain) (earlier : Settings) :
    settings.write (PlainTable.document ⟨true, true⟩ earlier.tables) =
      PlainTable.document ⟨true, false⟩ settings.tables := by
  obtain ⟨core, api, mock⟩ := settings
  obtain ⟨root, cookie, previous, headerTs?, headerJs?, path, formatter, substitutions, tags⟩ := api
  obtain ⟨rfl, rfl, rfl⟩ := isPlain
  rfl

theorem parse?_document_plainText (settings : Settings) :
    Toml.Document.parse? settings.plainText =
      some (PlainTable.document ⟨true, true⟩ settings.tables) :=
  parse?_textFrom settings.isReadable_tables (show ["core", "api", "mock"].Nodup by decide)

/-- A file that is missing or no document is written anew. -/
theorem save_anew (isPlain : settings.IsPlain) {file : Option String}
    (unread : ∀ text, file = some text → Toml.Document.parse? text = none) :
    settings.save file = settings.plainText := by
  have nothing : file.bind Toml.Document.parse? = none := by
    cases file with
    | none => rfl
    | some text => exact unread text rfl
  rw [save, nothing, Option.getD_none, write_empty isPlain, text_document]
  rfl

/-- A file that runs have written gets the text of the new settings. -/
theorem save_plainText (isPlain : settings.IsPlain) (earlier : Settings) :
    settings.save (some earlier.plainText) = settings.plainText := by
  rw [save, Option.bind_some, parse?_document_plainText, Option.getD_some,
    write_document isPlain, text_document]
  rfl

/-- The settings are read back. -/
theorem parse?_plainText (isPlain : settings.IsPlain) :
    parse? settings.plainText = some settings := by
  have saved : settings.save none = settings.plainText := save_anew isPlain nofun
  have parsed := settings.parse?_document_plainText
  rw [← saved] at parsed ⊢
  refine settings.parse?_save none parsed ?_
  rw [Option.bind_none, Option.getD_none, write_empty isPlain]
  rfl

end TypedClient.Settings
