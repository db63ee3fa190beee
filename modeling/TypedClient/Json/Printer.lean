/-
# JSON text

The compact and the indented text of a JSON value. Strings escape the quote, the backslash and the
control characters; everything else stands as it is.
-/

import TypedClient.Json.Basic
import TypedClient.Number.Shortest
import TypedClient.Text.Lines

namespace TypedClient

namespace Json

/-- Doubles are written without an exponent from `0.00001` up to below `10 ^ 16`. -/
def doubleLayout : Number.DoubleLayout :=
  { leastPoint := -4, greatestPoint := 16, signedExponent := true }

/-- The text of a number. -/
def numberText : JsonNumber → String
  | .whole value => toString value
  | .double value => doubleLayout.text value

/-- A character inside a JSON string. -/
def escapeChar (c : Char) : List Char :=
  match c with
  | '"' => ['\\', '"']
  | '\\' => ['\\', '\\']
  | '\n' => ['\\', 'n']
  | '\r' => ['\\', 'r']
  | '\t' => ['\\', 't']
  | '\x08' => ['\\', 'b']
  | '\x0c' => ['\\', 'f']
  | c => if c.toNat < 0x20 then '\\' :: 'u' :: Text.hexDigits 4 c.toNat else [c]

/-- A quoted JSON string. -/
def quote (s : String) : String :=
  String.ofList ('"' :: s.toList.flatMap escapeChar ++ ['"'])

mutual

/-- The compact text of a value. -/
def compact : Json → String
  | .null => "null"
  | .bool true => "true"
  | .bool false => "false"
  | .number n => numberText n
  | .string s => quote s
  | .array items => "[" ++ ",".intercalate (compactItems items) ++ "]"
  | .object members => "\x7b" ++ ",".intercalate (compactMembers members) ++ "\x7d"

/-- The compact texts of the items of an array. -/
def compactItems : List Json → List String
  | [] => []
  | item :: rest => compact item :: compactItems rest

/-- The compact texts of the members of an object. -/
def compactMembers : List (String × Json) → List String
  | [] => []
  | (key, value) :: rest => (quote key ++ ":" ++ compact value) :: compactMembers rest

end

/-- The blanks that indent a line of the given depth by two each. -/
def indentation (depth : Nat) : String :=
  String.ofList (List.replicate (2 * depth) ' ')

mutual

/-- The indented text of a value whose first line stands at `depth`. -/
def pretty (depth : Nat) : Json → String
  | .array [] => "[]"
  | .object [] => "\x7b\x7d"
  | .array items =>
    "[\n" ++ ",\n".intercalate (prettyItems (depth + 1) items) ++ "\n" ++ indentation depth ++ "]"
  | .object members =>
    "\x7b\n" ++ ",\n".intercalate (prettyMembers (depth + 1) members) ++ "\n" ++
      indentation depth ++ "\x7d"
  | value => compact value

/-- The indented items of an array. -/
def prettyItems (depth : Nat) : List Json → List String
  | [] => []
  | item :: rest => (indentation depth ++ pretty depth item) :: prettyItems depth rest

/-- The indented members of an object. -/
def prettyMembers (depth : Nat) : List (String × Json) → List String
  | [] => []
  | (key, value) :: rest =>
    (indentation depth ++ quote key ++ ": " ++ pretty depth value) :: prettyMembers depth rest

end

end Json

end TypedClient
