/-
# Places in a YAML text

The characters that a text may hold, its line breaks, and the place that reading has reached. A text
is read after its carriage returns and next-line characters have become line feeds; the line and
paragraph separators also end a line but stay themselves.
-/

namespace TypedClient.Yaml

/-- Whether a text may hold a character. -/
def isAllowed (c : Char) : Bool :=
  let n := c.toNat
  n == 0x09 || n == 0x0a || n == 0x0d || (0x20 ≤ n && n ≤ 0x7e) || n == 0x85 ||
    (0xa0 ≤ n && n ≤ 0xd7ff) || (0xe000 ≤ n && n ≤ 0xfffd) || 0x10000 ≤ n

/-- A text in which each carriage return, alone or before a line feed, and each next-line character
is a line feed. -/
def joinBreaks : List Char → List Char
  | [] => []
  | '\r' :: '\n' :: rest => '\n' :: joinBreaks rest
  | c :: rest => (if c = '\r' || c = '\x85' then '\n' else c) :: joinBreaks rest

/-- Whether a character ends a line. -/
def isBreak (c : Char) : Bool :=
  c == '\n' || c == '\u2028' || c == '\u2029'

/-- Whether a character is a space or a tab. -/
def isBlank (c : Char) : Bool :=
  c == ' ' || c == '\t'

/-- Whether a text is at its end, at the end of a line or at a space or tab. -/
def atGap : List Char → Bool
  | [] => true
  | c :: _ => isBlank c || isBreak c

/-- Whether a text is at its end or at the end of a line. -/
def atLineEnd : List Char → Bool
  | [] => true
  | c :: _ => isBreak c

/-- Whether a text begins with a marker of a document's start or end. -/
def atMarker : List Char → Bool
  | '-' :: '-' :: '-' :: rest | '.' :: '.' :: '.' :: rest => atGap rest
  | _ => false

/-- Whether a character may stand in a name: an ASCII letter or digit, `_` or `-`. -/
def isNameChar (c : Char) : Bool :=
  c.isAlphanum || c == '_' || c == '-'

/-- A place: how many characters come before it, in the text and in its line, and on which line it
is. -/
structure Position where
  index : Nat
  line : Nat
  column : Nat
  deriving DecidableEq, Repr

/-- The place after a character. -/
def Position.next (at_ : Position) (c : Char) : Position :=
  if isBreak c then ⟨at_.index + 1, at_.line + 1, 0⟩
  else ⟨at_.index + 1, at_.line, at_.column + 1⟩

/-- A place and the text from it on. -/
structure Cursor where
  position : Position
  rest : List Char

namespace Cursor

/-- The start of a text. -/
def start (cs : List Char) : Cursor := ⟨⟨0, 0, 0⟩, cs⟩

/-- The column of the place. -/
def column (cursor : Cursor) : Nat := cursor.position.column

/-- The place after the leading characters that satisfy `p`. -/
def skipFrom (p : Char → Bool) : Position → List Char → Cursor
  | position, [] => ⟨position, []⟩
  | position, c :: rest =>
    if p c then skipFrom p (position.next c) rest else ⟨position, c :: rest⟩

/-- The place after the leading characters that satisfy `p`. -/
def skipWhile (p : Char → Bool) (cursor : Cursor) : Cursor :=
  skipFrom p cursor.position cursor.rest

/-- The place `count` characters on. -/
def skip : (count : Nat) → Cursor → Cursor
  | 0, cursor => cursor
  | _ + 1, ⟨position, []⟩ => ⟨position, []⟩
  | count + 1, ⟨position, c :: rest⟩ => skip count ⟨position.next c, rest⟩

/-- The leading characters that satisfy `p` and the place after them. -/
def takeWhile (p : Char → Bool) (cursor : Cursor) : List Char × Cursor :=
  (cursor.rest.takeWhile p, cursor.skipWhile p)

/-- The place after the end of a line that has nothing left but spaces and a comment. -/
def endLine? (cursor : Cursor) : Option Cursor :=
  let cursor := cursor.skipWhile isBlank
  let cursor := if cursor.rest.head? = some '#' then cursor.skipWhile (!isBreak ·) else cursor
  if atLineEnd cursor.rest then some (cursor.skip 1) else none

end Cursor

end TypedClient.Yaml
