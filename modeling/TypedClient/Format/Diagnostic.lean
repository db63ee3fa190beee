/-
# Formatting

Every generated module goes through a formatter, which answers with the formatted text or says what
is wrong with the module, on a line where it can tell.
-/

import TypedClient.Compile.Config

namespace TypedClient

/-- Why a text cannot be formatted. -/
structure FormatDiagnostic where
  message : String
  /-- The line of the text that shows the fault, counted from one. -/
  line? : Option Nat
  deriving DecidableEq, Repr

/-- The message with its line. -/
def FormatDiagnostic.display (diagnostic : FormatDiagnostic) : String :=
  match diagnostic.line? with
  | some line => diagnostic.message ++ " (line " ++ toString line ++ ")"
  | none => diagnostic.message

/-- A way of formatting texts. -/
abbrev Formatter := String → Language → FormatStyle → Except FormatDiagnostic String

namespace Formatter

/-- The formatter that leaves every text as it is. -/
def identity : Formatter := fun text _ _ => .ok text

end Formatter

end TypedClient
