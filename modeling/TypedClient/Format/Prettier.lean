/-
# An external formatter

The prettier program, run over each module: which program is found, the arguments it gets, and what
its answer means. Running it is left to the caller.
-/

import TypedClient.Number.Word
import TypedClient.Format.Diagnostic
import TypedClient.Text.Lines

namespace TypedClient

/-- The program to run and the arguments that come before all others. -/
structure Prettier where
  program : String
  leading : List String
  deriving DecidableEq, Repr

/-- What a finished program left behind. -/
structure ProcessOutcome where
  exitCode : Int
  output : String
  errors : String
  deriving DecidableEq, Repr

namespace Prettier

/-- The formatter among the installed programs: prettier itself, else through npx. -/
def detect? (isInstalled : String → Bool) : Option Prettier :=
  if isInstalled "prettier" then some ⟨"prettier", []⟩
  else if isInstalled "npx" then some ⟨"npx", ["--no-install", "prettier"]⟩
  else none

/-- The arguments of a run. -/
def arguments (prettier : Prettier) (language : Language) (style : FormatStyle) : List String :=
  prettier.leading ++
    ["--parser", language.formatterParser, "--print-width", toString style.printWidth,
      "--tab-width", toString style.tabWidth, "--trailing-comma",
      if style.trailingComma then "all" else "none"]

/-- The value of a number of at most 64 bits with blanks around it and perhaps a plus sign. -/
def number? (cs : List Char) : Option Nat :=
  let digits := match Text.trimList cs with
    | '+' :: rest => rest
    | cs => cs
  if digits.isEmpty || !digits.all Char.isDigit then none
  else
    let value := digits.foldl (fun n d => n * 10 + (d.toNat - '0'.toNat)) 0
    if value < Number.wordValues 64 then some value else none

/-- The line of the first place in parentheses, written as line and column. -/
def errorLine? (errors : List Char) : Option Nat := do
  let (_, rest) ← Text.splitOnce (· == '(') errors
  let (line, rest) ← Text.splitOnce (· == ':') rest
  let (column, _) ← Text.splitOnce (· == ')') rest
  let _ ← number? column
  number? line

/-- The meaning of a run: its output, or the first line of its complaint. -/
def interpret (outcome : ProcessOutcome) : Except FormatDiagnostic String :=
  if outcome.exitCode = 0 then .ok outcome.output
  else
    .error
      { message := Text.trim ((Text.lines outcome.errors).head?.getD "prettier failed")
        line? := errorLine? outcome.errors.toList }

end Prettier

end TypedClient
