/-
# Compilation settings as data

Reading compilation settings from data. Every field has a default.
-/

import TypedClient.Compile.Config
import TypedClient.Settings.Record

namespace TypedClient

open Record

/-- Reads a replacement; it has no defaults. -/
def Substitution.ofData? (extra : ExtraItems) (data : Json) : Option Substitution := do
  let fields ← fields? extra ["from", "to"] data
  some
    { pattern := ← required fields "from" Json.string?
      replacement := ← required fields "to" Json.string? }

/-- Reads a style. -/
def FormatStyle.ofData? (data : Json) : Option FormatStyle := do
  let fields ← fields? .refused ["print_width", "tab_width", "trailing_comma"] data
  let default : FormatStyle := {}
  some
    { printWidth := ← field fields "print_width" default.printWidth natural?
      tabWidth := ← field fields "tab_width" default.tabWidth natural?
      trailingComma := ← field fields "trailing_comma" default.trailingComma Json.bool? }

/-- Reads the choice of a strategy. -/
def StrategyOptions.ofData? (data : Json) : Option StrategyOptions := do
  let fields ← fields? .refused ["strategy", "header", "substitutions"] data
  let default : StrategyOptions := {}
  some
    { strategy := ← field fields "strategy" default.strategy Json.string?
      header? := ← field fields "header" default.header? (nullable Json.string?)
      substitutions := ← field fields "substitutions" default.substitutions
        (list? (Substitution.ofData? .refused)) }

/-- Reads compilation settings. -/
def CompileConfig.ofData? (data : Json) : Option CompileConfig := do
  let fields ← fields? .refused
    ["lang", "naming", "template", "type_only", "mock", "interface_import_path", "tags", "style"]
    data
  let default : CompileConfig := {}
  some
    { language := ← field fields "lang" default.language (choice? Language.ofExtension?)
      naming := ← field fields "naming" default.naming (choice? NamingPolicy.ofName?)
      template := ← field fields "template" default.template StrategyOptions.ofData?
      typeOnly := ← field fields "type_only" default.typeOnly Json.bool?
      mock := ← field fields "mock" default.mock Json.bool?
      interfaceImportPath :=
        ← field fields "interface_import_path" default.interfaceImportPath Json.string?
      tags := ← field fields "tags" default.tags (list? Json.string?)
      style := ← field fields "style" default.style FormatStyle.ofData? }

end TypedClient
