/-
# TOML strings

How a text is written as a string: plainly between double quotes if nothing in it has to be
escaped, else between the quotes that need no escape, else with escapes. A text of several lines
starts on a line of its own.
-/

namespace TypedClient.Toml

/-- The greatest number of consecutive occurrences of a character, given how many end here. -/
def longestRun (c : Char) : (current : Nat) → List Char → Nat
  | current, [] => current
  | current, d :: rest =>
    if d = c then longestRun c (current + 1) rest else max current (longestRun c 0 rest)

/-- Whether a character needs an escape code in every string: the controls but tab and line feed. -/
def needsCode (c : Char) : Bool :=
  (c.toNat < 0x20 && c != '\t' && c != '\n') || c.toNat = 0x7f

/-- The four quotations of a string. -/
inductive Quotation where
  | basic
  | literal
  | multiLineBasic
  | multiLineLiteral
  deriving DecidableEq, Repr

namespace Quotation

/-- The quotes of a quotation. -/
def quotes : Quotation → String
  | basic => "\""
  | literal => "'"
  | multiLineBasic => "\"\"\""
  | multiLineLiteral => "'''"

/-- Whether a quotation holds a text without escapes. -/
def isPlainFor (cs : List Char) : Quotation → Bool
  | basic => !cs.any fun c => needsCode c || c = '\n' || c = '\\' || c = '"'
  | literal => !cs.any fun c => needsCode c || c = '\n' || c = '\''
  | multiLineBasic =>
    !cs.any (fun c => needsCode c || c = '\\') && longestRun '"' 0 cs ≤ 2
  | multiLineLiteral => !cs.any needsCode && longestRun '\'' 0 cs ≤ 2

/-- The quotation of a text. -/
def choose (cs : List Char) : Quotation :=
  match [basic, literal, multiLineBasic, multiLineLiteral].find? (isPlainFor cs) with
  | some quotation => quotation
  | none => if cs.contains '\n' then multiLineBasic else basic

end Quotation

/-- The text of a character between double quotes. -/
def escapeChar (c : Char) : List Char :=
  match [('\x08', 'b'), ('\t', 't'), ('\n', 'n'), ('\x0c', 'f'), ('\r', 'r'), ('\\', '\\'),
      ('"', '"')].lookup c with
  | some letter => ['\\', letter]
  | none =>
    if needsCode c then
      ['\\', 'u', '0', '0', (Nat.digitChar (c.toNat / 16)).toUpper,
        (Nat.digitChar (c.toNat % 16)).toUpper]
    else [c]

/-- The characters between double quotes. Over several lines, line feeds stay and so do up to two
quotes in a row; `run` counts the quotes before. -/
def escapeFrom (multiLine : Bool) : (run : Nat) → List Char → List Char
  | _, [] => []
  | run, c :: rest =>
    if multiLine && c = '\n' then '\n' :: escapeFrom multiLine 0 rest
    else if multiLine && c = '"' && run < 2 then '"' :: escapeFrom multiLine (run + 1) rest
    else escapeChar c ++ escapeFrom multiLine 0 rest

/-- A text as a string. -/
def quote (s : String) : String :=
  let cs := s.toList
  let quotation := Quotation.choose cs
  let body := match quotation with
    | .basic => escapeFrom false 0 cs
    | .multiLineBasic => escapeFrom true 0 cs
    | .literal | .multiLineLiteral => cs
  let start := match quotation with
    | .multiLineBasic | .multiLineLiteral => if cs.contains '\n' then "\n" else ""
    | .basic | .literal => ""
  quotation.quotes ++ start ++ String.ofList body ++ quotation.quotes

end TypedClient.Toml
