/-
# Stored settings as data

Reading stored settings from data. Every setting has a default, unknown ones are passed over, and
one of the wrong type refuses them all.
-/

import TypedClient.Compile.ConfigData
import TypedClient.Settings.Basic

namespace TypedClient

open Record

/-- Reads the core settings. -/
def CoreSettings.ofData? (extra : ExtraItems) (data : Json) : Option CoreSettings := do
  let fields ← fields? extra ["source", "lang", "template", "naming", "type_only"] data
  let default : CoreSettings := {}
  some
    { source := ← field fields "source" default.source Json.string?
      language := ← field fields "lang" default.language Json.string?
      template := ← field fields "template" default.template Json.string?
      naming := ← field fields "naming" default.naming Json.string?
      typeOnly := ← field fields "type_only" default.typeOnly Json.bool? }

/-- Reads the settings of the request module. -/
def ApiSettings.ofData? (extra : ExtraItems) (data : Json) : Option ApiSettings := do
  let fields ← fields? extra
    ["root", "cookie", "previous_source", "header_ts", "header_js", "interface_import_path",
      "formatter", "substitutions", "api_choices"]
    data
  let default : ApiSettings := {}
  some
    { root := ← field fields "root" default.root Json.string?
      cookie := ← field fields "cookie" default.cookie Json.string?
      previousSource := ← field fields "previous_source" default.previousSource Json.string?
      headerTs? := ← field fields "header_ts" default.headerTs? (nullable Json.string?)
      headerJs? := ← field fields "header_js" default.headerJs? (nullable Json.string?)
      interfaceImportPath :=
        ← field fields "interface_import_path" default.interfaceImportPath Json.string?
      formatter := ← field fields "formatter" default.formatter Json.string?
      substitutions := ← field fields "substitutions" default.substitutions
        (list? (Substitution.ofData? extra))
      tags := ← field fields "api_choices" default.tags (list? Json.string?) }

/-- Reads the mock settings. -/
def MockSettings.ofData? (extra : ExtraItems) (data : Json) : Option MockSettings := do
  let fields ← fields? extra ["root", "wrap"] data
  let default : MockSettings := {}
  some
    { root := ← field fields "root" default.root Json.string?
      wrap := ← field fields "wrap" default.wrap Json.bool? }

/-- Reads all stored settings. -/
def Settings.ofData? (extra : ExtraItems) (data : Json) : Option Settings := do
  let fields ← fields? extra ["core", "api", "mock"] data
  let default : Settings := {}
  some
    { core := ← field fields "core" default.core (CoreSettings.ofData? extra)
      api := ← field fields "api" default.api (ApiSettings.ofData? extra)
      mock := ← field fields "mock" default.mock (MockSettings.ofData? extra) }

end TypedClient
