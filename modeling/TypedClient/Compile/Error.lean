/-
# Compilation errors

The causes for which a compilation produces nothing. A schema that cannot be made sense of is no
cause: it resolves to the type of everything.
-/

import TypedClient.Format.Diagnostic

namespace TypedClient

/-- Why a compilation fails. -/
inductive CompileError where
  /-- The document is not an object. -/
  | notAMapping
  /-- The text is neither JSON nor YAML. -/
  | unreadable
  /-- Two definitions would be declared under one name. -/
  | namingCollision (identifier first second : String)
  /-- Two operations would have functions of one name. -/
  | duplicateOperation (name first second : String)
  /-- The configured strategy is not registered. -/
  | unknownTemplate (name : String) (available : List String)
  /-- The formatter refuses a module. -/
  | formatterFailure (module unit : String) (diagnostic : FormatDiagnostic) (emitted : String)
  deriving DecidableEq, Repr

namespace CompileError

/-- The names of registered strategies as one text. -/
def listed (available : List String) : String :=
  ", ".intercalate available

/-- The message of an error. -/
def message : CompileError → String
  | notAMapping => "invalid schema document: top-level value is not a mapping"
  | unreadable => "invalid schema document: not JSON and not YAML"
  | namingCollision identifier first second =>
    "naming collision: definitions '" ++ first ++ "' and '" ++ second ++
      "' both normalize to '" ++ identifier ++ "'"
  | duplicateOperation name first second =>
    "duplicate request function '" ++ name ++ "' generated for " ++ first ++ " and " ++ second
  | unknownTemplate name available =>
    "unknown request template '" ++ name ++ "' (available: " ++ listed available ++ ")"
  | formatterFailure module unit diagnostic _ =>
    "formatter rejected generated unit '" ++ unit ++ "' in " ++ module ++ ": " ++
      diagnostic.display

/-- The text that could not be formatted, if that is the error. -/
def emitted? : CompileError → Option String
  | formatterFailure _ _ _ emitted => some emitted
  | _ => none

end CompileError

end TypedClient
