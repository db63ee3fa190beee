/-
# String literals and property access

How a text stands inside generated code: as a double-quoted literal, as a property key, and as a
property read off an object. A literal never spans lines, because line terminators and control
characters are written as escapes.
-/

import TypedClient.Text.Lines

namespace TypedClient.Naming

/-- A character inside a double-quoted literal. -/
def escapeChar (c : Char) : List Char :=
  match c with
  | '\\' => ['\\', '\\']
  | '"' => ['\\', '"']
  | '\n' => ['\\', 'n']
  | '\r' => ['\\', 'r']
  | '\t' => ['\\', 't']
  | c =>
    if Text.isControl c || c.toNat == 0x2028 || c.toNat == 0x2029 then
      '\\' :: 'u' :: Text.hexDigits 4 c.toNat
    else [c]

/-- The inside of a double-quoted literal. -/
def escapeLiteral (s : String) : String :=
  String.ofList (s.toList.flatMap escapeChar)

/-- A double-quoted literal. -/
def quoteLiteral (s : String) : String :=
  "\"" ++ escapeLiteral s ++ "\""

/-- Characters a plain property key may start with. -/
def isKeyStart (c : Char) : Bool :=
  c.isAlpha || c == '_' || c == '$'

/-- Characters a plain property key may go on with. -/
def isKeyPart (c : Char) : Bool :=
  Text.isAsciiAlphanumeric c || c == '_' || c == '$'

/-- Whether a key has to be quoted. -/
def needsQuotes (key : String) : Bool :=
  match key.toList with
  | [] => true
  | first :: rest => !(isKeyStart first && (first :: rest).all isKeyPart)

/-- A property key, quoted if it has to be. -/
def propertyKey (key : String) : String :=
  if needsQuotes key then quoteLiteral key else key

/-- Reading a property off an object. -/
def propertyAccess (object key : String) : String :=
  if needsQuotes key then object ++ "[" ++ quoteLiteral key ++ "]" else object ++ "." ++ key

end TypedClient.Naming
