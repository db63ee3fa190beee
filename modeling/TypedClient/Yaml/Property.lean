/-
# Anchors, tags and directives

The small tokens that name things: an anchor or an alias, a tag, and the directives before a
document. Each reader starts after the indicator and gives the place where the token ends.
-/

import TypedClient.Text.Lines
import TypedClient.Yaml.Cursor
import TypedClient.Yaml.Token

namespace TypedClient.Yaml

/-- Whether a text may follow the name of an anchor or alias. -/
def endsAnchor (cs : List Char) : Bool :=
  atGap cs || cs.head?.any fun c =>
    c == '?' || c == ':' || c == ',' || c == ']' || c == '}' || c == '%' || c == '@' || c == '\x60'

/-- The name of an anchor or alias. -/
def anchorName? (cursor : Cursor) : Option (String × Cursor) :=
  let (name, cursor) := cursor.takeWhile isNameChar
  if name.isEmpty || !endsAnchor cursor.rest then none else some (String.ofList name, cursor)

/-- Whether a character may stand in a tag. Only a verbatim tag takes commas and brackets. -/
def isTagChar (verbatim : Bool) (c : Char) : Bool :=
  isNameChar c || ";/?:@&=+$.!~*'()%".toList.contains c ||
    (verbatim && (c == ',' || c == '[' || c == ']'))

/-- The octet of a percent escape. -/
def octet? : List Char → Option (Nat × List Char)
  | '%' :: a :: b :: rest => do
    let high ← Text.hexValue? a
    let low ← Text.hexValue? b
    some (high * 16 + low, rest)
  | _ => none

/-- How many octets a character has, told by its first. -/
def octetCount? (first : Nat) : Option Nat :=
  if first < 0x80 then some 1
  else if first / 0x20 = 6 then some 2
  else if first / 0x10 = 14 then some 3
  else if first / 8 = 30 then some 4
  else none

/-- Decodes the percent escapes of a tag. A character of several octets takes as many escapes; such
a tag is no tag of the core schema, and its octets are kept as they are. -/
def unescapeTag? : (fuel following : Nat) → List Char → Option (List Char)
  | 0, _, _ => none
  | _ + 1, 0, [] => some []
  | _ + 1, _ + 1, [] => none
  | fuel + 1, following, c :: rest =>
    if c = '%' then do
      let (octet, rest) ← octet? (c :: rest)
      match following with
      | 0 =>
        let count ← octetCount? octet
        let decoded ← unescapeTag? fuel (count - 1) rest
        some (Char.ofNat octet :: decoded)
      | following + 1 =>
        if octet / 0x40 = 2 then
          let decoded ← unescapeTag? fuel following rest
          some (Char.ofNat octet :: decoded)
        else none
    else if following = 0 then (unescapeTag? fuel 0 rest).map (c :: ·)
    else none

/-- The characters of a tag up to the first that may not stand in one, decoded. -/
def tagText? (verbatim : Bool) (cursor : Cursor) : Option (List Char × Cursor) :=
  let (written, cursor) := cursor.takeWhile (isTagChar verbatim)
  (unescapeTag? (written.length + 1) 0 written).map (·, cursor)

/-- A handle: an exclamation mark, name characters, and a closing exclamation mark if there is
one. -/
def tagHandle? (cursor : Cursor) : Option (List Char × Cursor) :=
  if cursor.rest.head? = some '!' then
    let (name, after) := (cursor.skip 1).takeWhile isNameChar
    if after.rest.head? = some '!' then some ('!' :: name ++ ['!'], after.skip 1)
    else some ('!' :: name, after)
  else none

/-- A tag, from its exclamation mark on: verbatim between angle brackets, with a handle, or local.
A tag of nothing but the mark is itself. -/
def tagName? (flow : Bool) (cursor : Cursor) : Option (TagName × Cursor) := do
  let (name, cursor) ←
    if (cursor.rest.drop 1).head? = some '<' then do
      let (text, after) ← tagText? true (cursor.skip 2)
      if text.isEmpty || after.rest.head? ≠ some '>' then none
      else some (TagName.mk "" (String.ofList text), after.skip 1)
    else do
      let (handle, after) ← tagHandle? cursor
      let (text, after) ← tagText? false after
      if handle.length > 1 && handle.getLast? = some '!' then
        if text.isEmpty then none
        else some (TagName.mk (String.ofList handle) (String.ofList text), after)
      else
        let suffix := handle.drop 1 ++ text
        if suffix.isEmpty then some (TagName.mk "" "!", after)
        else some (TagName.mk "!" (String.ofList suffix), after)
  if atGap cursor.rest || (flow && cursor.rest.head? = some ',') then some (name, cursor) else none

/-- The number of a version: one to nine digits. -/
def versionNumber? (cursor : Cursor) : Option (Nat × Cursor) :=
  let (digits, cursor) := cursor.takeWhile Char.isDigit
  if digits.isEmpty || 9 < digits.length then none
  else some (digits.foldl (fun n d => n * 10 + (d.toNat - '0'.toNat)) 0, cursor)

/-- The rest of a version directive. -/
def versionDirective? (cursor : Cursor) : Option (Token × Cursor) := do
  let (major, cursor) ← versionNumber? (cursor.skipWhile isBlank)
  if cursor.rest.head? ≠ some '.' then none
  let (minor, cursor) ← versionNumber? (cursor.skip 1)
  some (.versionDirective major minor, cursor)

/-- The rest of a tag directive: a whole handle and the beginning it stands for. -/
def tagDirective? (cursor : Cursor) : Option (Token × Cursor) := do
  let (handle, cursor) ← tagHandle? (cursor.skipWhile isBlank)
  if handle.getLast? ≠ some '!' || !cursor.rest.head?.any isBlank then none
  let (start, cursor) ← tagText? true (cursor.skipWhile isBlank)
  if start.isEmpty || !atGap cursor.rest then none
  else some (.tagDirective (String.ofList handle) (String.ofList start), cursor)

/-- A directive after its percent sign, with the rest of its line. -/
def directive? (cursor : Cursor) : Option (Token × Cursor) := do
  let (name, cursor) := cursor.takeWhile isNameChar
  if !atGap cursor.rest then none
  let (token, cursor) ← match String.ofList name with
    | "YAML" => versionDirective? cursor
    | "TAG" => tagDirective? cursor
    | _ => none
  some (token, ← cursor.endLine?)

end TypedClient.Yaml
