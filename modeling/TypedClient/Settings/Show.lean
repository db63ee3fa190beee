/-
# Showing settings

Stored settings laid out for reading: each section under its header, lists of two and more over
several lines, and each replacement as a table of its own.
-/

import TypedClient.Settings.File

namespace TypedClient

open Toml

namespace Settings

/-- A list of texts, over several lines if there are two or more. -/
def shownTexts (texts : List String) : Item :=
  if texts.length ≤ 1 then textsItem texts
  else
    let lines := texts.map fun text => "\n    " ++ quote text
    .value {} ("[" ++ String.intercalate "," lines ++ ",\n]") (.array (texts.map .string))

/-- Replacements as tables of an array. -/
def shownRules (rules : List Substitution) : Item :=
  if rules.isEmpty then rulesItem rules
  else .tables (rules.map fun rule =>
    ({}, [({ name := "from" }, textItem rule.pattern),
      ({ name := "to" }, textItem rule.replacement)]))

/-- The document that shows settings. -/
def shown (settings : Settings) : Toml.Document :=
  let api := (writeApi settings.api []).set "substitutions" (shownRules settings.api.substitutions)
  let api := api.set "api_choices" (shownTexts settings.api.tags)
  { entries :=
      [({ name := "core" }, .table {} (writeCore settings.core [])),
        ({ name := "api" }, .table {} api),
        ({ name := "mock" }, .table {} (writeMock settings.mock []))] }

/-- The text that shows settings. -/
def showText (settings : Settings) : String := settings.shown.text

end Settings

end TypedClient
