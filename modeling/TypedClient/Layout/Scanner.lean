/-
# Scanning delimiters

The structure that layout follows: brackets, interpolations, template literals and block comments
that are open at the start of a line. One line after the other is scanned; strings and line comments
end with their line, everything else may stay open.
-/

import TypedClient.Naming.Identifier

namespace TypedClient.Layout

/-- What can be open across lines. -/
inductive Delimiter where
  | paren
  | bracket
  | brace
  /-- An interpolation inside a template literal. -/
  | interpolation
  /-- The text of a template literal. -/
  | template
  deriving DecidableEq, Repr

namespace Delimiter

/-- The character that opens a delimiter. -/
def sign : Delimiter → Char
  | paren => '('
  | bracket => '['
  | brace => '{'
  | interpolation => '$'
  | template => '\x60'

/-- The character that closes a delimiter, if it is one of the closing brackets. -/
def closer? : Delimiter → Option Char
  | paren => some ')'
  | bracket => some ']'
  | brace | interpolation => some '}'
  | template => none

/-- The bracket that a character opens. -/
def opened? : Char → Option Delimiter
  | '(' => some paren
  | '[' => some bracket
  | '{' => some brace
  | _ => none

end Delimiter

/-- Whether a character closes a bracket. -/
def isCloser (c : Char) : Bool :=
  c == ')' || c == ']' || c == '}'

/-- An open delimiter, with the line it was opened on and the level that line was printed at. -/
structure Frame where
  delimiter : Delimiter
  line : Nat
  level : Nat
  deriving DecidableEq, Repr

/-- A fault in the structure of a text. -/
inductive Fault where
  | unterminatedString
  /-- A closing bracket with nothing open. -/
  | unexpected (closer : Char)
  /-- A closing bracket that does not close what is open. -/
  | mismatched (closer : Char) (frame : Frame)
  /-- A declaration of something that is no identifier. -/
  | invalidIdentifier (name : String)
  /-- A delimiter that is never closed. -/
  | unclosed (frame : Frame)
  | unterminatedComment
  deriving DecidableEq, Repr

/-- The message of a fault. -/
def Fault.message : Fault → String
  | unterminatedString => "unterminated string literal"
  | unexpected closer => "unexpected '" ++ closer.toString ++ "'"
  | mismatched closer frame =>
    "unexpected '" ++ closer.toString ++ "', '" ++ frame.delimiter.sign.toString ++
      "' opened on line " ++ toString frame.line ++ " is still open"
  | invalidIdentifier name => "invalid identifier '" ++ name ++ "'"
  | unclosed frame =>
    if frame.delimiter = .template then "unterminated template literal"
    else "unclosed '" ++ frame.delimiter.sign.toString ++ "'"
  | unterminatedComment => "unterminated block comment"

/-- What is open at the start of a line, innermost first. -/
structure Scanner where
  stack : List Frame := []
  inComment : Bool := false
  deriving DecidableEq, Repr

namespace Scanner

/-- Whether the text of a template literal goes on. -/
def inTemplate (scanner : Scanner) : Bool :=
  match scanner.stack with
  | frame :: _ => frame.delimiter == .template
  | [] => false

/-- Opens a delimiter. -/
def push (scanner : Scanner) (frame : Frame) : Scanner :=
  { scanner with stack := frame :: scanner.stack }

/-- Closes the innermost delimiter. -/
def pop (scanner : Scanner) : Scanner :=
  { scanner with stack := scanner.stack.tail }

/-- Closes the innermost delimiter by a bracket, which has to fit. -/
def close (scanner : Scanner) (closer : Char) : Except Fault Scanner :=
  match scanner.stack with
  | [] => .error (.unexpected closer)
  | frame :: rest =>
    if frame.delimiter.closer? = some closer then .ok { scanner with stack := rest }
    else .error (.mismatched closer frame)

end Scanner

/-- Where scanning stands inside a line, beyond what stays open across lines. -/
inductive Mode where
  /-- Nothing is pending. -/
  | plain
  /-- A slash of code that may begin a comment. -/
  | afterSlash
  | lineComment
  /-- A string, up to its quote. -/
  | string (quote : Char)
  /-- A string after a backslash. -/
  | stringEscape (quote : Char)
  /-- A template literal after a backslash. -/
  | templateEscape
  /-- A template literal after a dollar sign that may begin an interpolation. -/
  | afterDollar
  /-- A block comment after a star that may end it. -/
  | afterStar
  deriving DecidableEq, Repr

namespace Scanner

/-- A character of code on a line that is numbered `line` and printed at `level`. -/
def feedCode (scanner : Scanner) (line level : Nat) (c : Char) : Except Fault (Scanner × Mode) :=
  match c with
  | '/' => .ok (scanner, .afterSlash)
  | '"' => .ok (scanner, .string '"')
  | '\'' => .ok (scanner, .string '\'')
  | '\x60' => .ok (scanner.push ⟨.template, line, level⟩, .plain)
  | c =>
    match Delimiter.opened? c with
    | some delimiter => .ok (scanner.push ⟨delimiter, line, level⟩, .plain)
    | none =>
      if isCloser c then (scanner.close c).map (·, .plain) else .ok (scanner, .plain)

/-- A character of the text of a template literal. -/
def feedTemplate (scanner : Scanner) (c : Char) : Scanner × Mode :=
  match c with
  | '\\' => (scanner, .templateEscape)
  | '\x60' => (scanner.pop, .plain)
  | '$' => (scanner, .afterDollar)
  | _ => (scanner, .plain)

/-- A character of a block comment. -/
def feedComment (scanner : Scanner) (c : Char) : Scanner × Mode :=
  (scanner, if c == '*' then .afterStar else .plain)

/-- One character of a line that is numbered `line` and printed at `level`. -/
def feed (line level : Nat) : Scanner × Mode → Char → Except Fault (Scanner × Mode)
  | (scanner, .plain), c =>
    if scanner.inComment then .ok (scanner.feedComment c)
    else if scanner.inTemplate then .ok (scanner.feedTemplate c)
    else scanner.feedCode line level c
  | (scanner, .afterSlash), c =>
    if c == '/' then .ok (scanner, .lineComment)
    else if c == '*' then .ok ({ scanner with inComment := true }, .plain)
    else scanner.feedCode line level c
  | (scanner, .lineComment), _ => .ok (scanner, .lineComment)
  | (scanner, .string quote), c =>
    .ok (scanner, if c == '\\' then .stringEscape quote
      else if c == quote then .plain else .string quote)
  | (scanner, .stringEscape quote), _ => .ok (scanner, .string quote)
  | (scanner, .templateEscape), _ => .ok (scanner, .plain)
  | (scanner, .afterDollar), c =>
    if c == '{' then .ok (scanner.push ⟨.interpolation, line, level⟩, .plain)
    else .ok (scanner.feedTemplate c)
  | (scanner, .afterStar), c =>
    if c == '/' then .ok ({ scanner with inComment := false }, .plain)
    else .ok (scanner.feedComment c)

/-- The end of a line: a string must not be open. -/
def endLine : Scanner × Mode → Except Fault Scanner
  | (_, .string _) | (_, .stringEscape _) => .error .unterminatedString
  | (scanner, _) => .ok scanner

/-- Scans a line that is numbered `line` and printed at `level`. -/
def scanLine (scanner : Scanner) (line level : Nat) (text : List Char) : Except Fault Scanner := do
  endLine (← text.foldlM (feed line level) (scanner, .plain))

end Scanner

end TypedClient.Layout
