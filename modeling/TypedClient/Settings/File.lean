/-
# The settings file

Stored settings are kept in a TOML file that its user may edit too. Saving edits the document that
is there: settings get their values, and all else stays as it is, with its comments.
-/

import TypedClient.Settings.Data
import TypedClient.Toml.Printer
import TypedClient.Toml.Quoted
import TypedClient.Toml.Reader

namespace TypedClient

open Toml

namespace Settings

/-- A text as a new value. -/
def textItem (s : String) : Item := .value {} (quote s) (.string s)

/-- A truth value as a new value. -/
def boolItem (b : Bool) : Item := .value {} (if b then "true" else "false") (.bool b)

/-- A list of texts as a new value in one line. -/
def textsItem (texts : List String) : Item :=
  .value {} ("[" ++ String.intercalate ", " (texts.map quote) ++ "]")
    (.array (texts.map .string))

/-- A replacement as text in braces. -/
def ruleText (rule : Substitution) : String :=
  "\x7b from = " ++ quote rule.pattern ++ ", to = " ++ quote rule.replacement ++ " \x7d"

/-- A replacement as data. -/
def ruleData (rule : Substitution) : Json :=
  .object [("from", .string rule.pattern), ("to", .string rule.replacement)]

/-- Replacements as a new value, each in one line. -/
def rulesItem (rules : List Substitution) : Item :=
  .value {} ("[" ++ String.intercalate ", " (rules.map ruleText) ++ "]")
    (.array (rules.map ruleData))

/-- Sets or removes a text. -/
def setOptional (name : String) (text? : Option String) (entries : Entries) : Entries :=
  match text? with
  | some text => entries.set name (textItem text)
  | none => entries.erase name

/-- Writes the core settings into their section. -/
def writeCore (core : CoreSettings) (entries : Entries) : Entries :=
  entries.set "source" (textItem core.source)
    |>.set "lang" (textItem core.language)
    |>.set "template" (textItem core.template)
    |>.set "naming" (textItem core.naming)
    |>.set "type_only" (boolItem core.typeOnly)

/-- Writes the settings of the request module into their section. -/
def writeApi (api : ApiSettings) (entries : Entries) : Entries :=
  let start := entries.set "root" (textItem api.root)
    |>.set "cookie" (textItem api.cookie)
    |>.set "previous_source" (textItem api.previousSource)
  let headers := setOptional "header_js" api.headerJs? (setOptional "header_ts" api.headerTs? start)
  headers.set "interface_import_path" (textItem api.interfaceImportPath)
    |>.set "formatter" (textItem api.formatter)
    |>.set "substitutions" (rulesItem api.substitutions)
    |>.set "api_choices" (textsItem api.tags)

/-- Writes the mock settings into their section. -/
def writeMock (mock : MockSettings) (entries : Entries) : Entries :=
  entries.set "root" (textItem mock.root)
    |>.set "wrap" (boolItem mock.wrap)

/-- Changes the entries of a section, which is made if it is not there. -/
def editSection (name : String) (change : Entries → Entries) (entries : Entries) : Entries :=
  (entries.openTable name).update name (·.mapEntries change)

/-- Writes settings into a document. -/
def write (settings : Settings) (document : Toml.Document) : Toml.Document :=
  let entries := editSection "core" (writeCore settings.core) document.entries
  let entries := editSection "api" (writeApi settings.api) entries
  { document with entries := editSection "mock" (writeMock settings.mock) entries }

/-- Reads settings from a document. -/
def read? (document : Toml.Document) : Option Settings :=
  ofData? .ignored document.data

/-- Reads settings from the text of a file. -/
def parse? (text : String) : Option Settings := do
  read? (← Toml.Document.parse? text)

/-- The text of a file after saving. A file that is not there or is no TOML document is written
anew. -/
def save (settings : Settings) (file : Option String) : String :=
  (settings.write ((file.bind Toml.Document.parse?).getD {})).text

end Settings

end TypedClient
