/-
# Scalars over several lines

The text of plain, quoted and block scalars. Between two pieces of a plain or quoted scalar stands
a gap: spaces are kept, one line break becomes a space, and of several line breaks the first is
dropped. A block scalar takes its lines from an indentation on and ends with the first line that
has less.
-/

import TypedClient.Text.Lines
import TypedClient.Yaml.Cursor

namespace TypedClient.Yaml

/-- What separates two pieces of a scalar. Characters are in reverse. -/
inductive Gap where
  | none
  /-- Spaces and tabs in a line. -/
  | blanks (reversed : List Char)
  /-- A first line break, absent where it is escaped, and the line breaks after it. -/
  | breaks (first : Option Char) (reversed : List Char)
  deriving DecidableEq, Repr

namespace Gap

/-- A gap with one more blank: blanks at the start of a line do not count. -/
def addBlank (c : Char) : Gap → Gap
  | none => blanks [c]
  | blanks reversed => blanks (c :: reversed)
  | breaks first reversed => breaks first reversed

/-- A gap with one more line break: blanks before it do not count. -/
def addBreak (c : Char) : Gap → Gap
  | none | blanks _ => breaks (some c) []
  | breaks first reversed => breaks first (c :: reversed)

/-- The text that a gap becomes, in reverse. -/
def fold : Gap → List Char
  | none => []
  | blanks reversed => reversed
  | breaks (some '\n') [] => [' ']
  | breaks (some '\n') reversed => reversed
  | breaks first reversed => reversed ++ first.toList

/-- Whether a gap has a line break. -/
def hasBreak : Gap → Bool
  | breaks _ _ => true
  | _ => false

end Gap

/-- The text of a scalar that has been read, whether line breaks follow it that are not part of it,
and the place after them. -/
structure ScalarText where
  text : String
  endsLine : Bool
  cursor : Cursor

/-- Whether a character ends a plain scalar inside brackets. -/
def isFlowIndicator (c : Char) : Bool :=
  c == ',' || c == '[' || c == ']' || c == '{' || c == '}'

/-- Reads a plain scalar. `margin` is the least column at which it goes on after a line break
outside brackets. Inside brackets a colon directly before an indicator is an error. -/
def plainFrom? (flow : Bool) (margin : Nat) :
    (reversed : List Char) → Gap → Position → List Char → Option ScalarText
  | reversed, gap, position, [] =>
    some ⟨String.ofList reversed.reverse, gap.hasBreak, ⟨position, []⟩⟩
  | reversed, gap, position, c :: rest =>
    let stop := some ⟨String.ofList reversed.reverse, gap.hasBreak, ⟨position, c :: rest⟩⟩
    if isBlank c then
      if gap.hasBreak && position.column < margin && c == '\t' then none
      else plainFrom? flow margin reversed (gap.addBlank c) (position.next c) rest
    else if isBreak c then
      plainFrom? flow margin reversed (gap.addBreak c) (position.next c) rest
    else if gap.hasBreak && !flow && position.column < margin then stop
    else if position.column = 0 && atMarker (c :: rest) then stop
    else if c == '#' && gap != .none then stop
    else if flow && c == ':' && rest.head?.any (fun d => isFlowIndicator d || d == '?') then none
    else if (c == ':' && atGap rest) || (flow && isFlowIndicator c) then stop
    else plainFrom? flow margin (c :: gap.fold ++ reversed) .none (position.next c) rest

/-- What a character after a backslash stands for in a double-quoted scalar. -/
def escaped? (c : Char) : Option Char :=
  [('0', '\x00'), ('a', '\x07'), ('b', '\x08'), ('t', '\t'), ('\t', '\t'), ('n', '\n'),
    ('v', '\x0b'), ('f', '\x0c'), ('r', '\r'), ('e', '\x1b'), (' ', ' '), ('"', '"'), ('/', '/'),
    ('\\', '\\'), ('N', '\x85'), ('_', '\xa0'), ('L', '\u2028'), ('P', '\u2029')].lookup c

/-- How many hexadecimal digits follow a character after a backslash. -/
def escapeWidth? (c : Char) : Option Nat :=
  [('x', 2), ('u', 4), ('U', 8)].lookup c

/-- The character with a code, which is not a surrogate. -/
def charOfCode? (code : Nat) : Option Char :=
  if (0xd800 ≤ code && code ≤ 0xdfff) || 0x10ffff < code then none else some (Char.ofNat code)

/-- Whether a quoted scalar is inside an escape: after the backslash, or with digits still to come
for a code. -/
inductive Escape where
  | none
  | started
  | digits (left code : Nat)
  deriving DecidableEq, Repr

/-- Reads a quoted scalar after its opening quote. -/
def quotedFrom? (quote : Char) :
    (reversed : List Char) → Gap → Escape → Position → List Char → Option ScalarText
  | _, _, _, _, [] => none
  | reversed, gap, .digits left code, position, c :: rest =>
    match left, Text.hexValue? c with
    | _, none => none
    | left + 1, some digit =>
      if left = 0 then
        match charOfCode? (code * 16 + digit) with
        | some meant => quotedFrom? quote (meant :: reversed) gap .none (position.next c) rest
        | none => none
      else quotedFrom? quote reversed gap (.digits left (code * 16 + digit)) (position.next c) rest
    | 0, some _ => none
  | reversed, gap, .started, position, c :: rest =>
    if isBreak c then quotedFrom? quote reversed (.breaks none []) .none (position.next c) rest
    else
      match escaped? c, escapeWidth? c with
      | some meant, _ => quotedFrom? quote (meant :: reversed) gap .none (position.next c) rest
      | none, some width =>
        quotedFrom? quote reversed gap (.digits width 0) (position.next c) rest
      | none, none => none
  | reversed, gap, .none, position, c :: rest =>
    if isBlank c then
      quotedFrom? quote reversed (gap.addBlank c) .none (position.next c) rest
    else if isBreak c then
      quotedFrom? quote reversed (gap.addBreak c) .none (position.next c) rest
    else if position.column = 0 && atMarker (c :: rest) then none
    else
      let reversed := gap.fold ++ reversed
      if quote == '"' && c == '\\' then
        quotedFrom? quote reversed .none .started (position.next c) rest
      else if c == quote then
        match rest with
        | d :: rest =>
          if quote == '\'' && d == '\'' then
            quotedFrom? quote ('\'' :: reversed) .none .none ((position.next c).next d) rest
          else some ⟨String.ofList reversed.reverse, false, ⟨position.next c, d :: rest⟩⟩
        | [] => some ⟨String.ofList reversed.reverse, false, ⟨position.next c, []⟩⟩
      else quotedFrom? quote (c :: reversed) .none .none (position.next c) rest

/-- What becomes of the line breaks at the end of a block scalar. -/
inductive Chomping where
  | strip
  | clip
  | keep
  deriving DecidableEq, Repr

/-- The header of a block scalar after its indicator: chomping and the indentation relative to its
parent, in either order. -/
def blockHeader? (cursor : Cursor) : Option (Chomping × Option Nat × Cursor) :=
  let chomping? : Option Char → Option Chomping
    | some '+' => some .keep
    | some '-' => some .strip
    | _ => none
  let width? : Option Char → Option Nat
    | some c => if c.isDigit then some (c.toNat - '0'.toNat) else none
    | none => none
  let first := cursor.rest.head?
  let second := (cursor.rest.drop 1).head?
  let (chomping, width, length) := match chomping? first, width? first with
    | some chomping, _ => (some chomping, width? second, 1 + (width? second).toList.length)
    | none, some width =>
      (chomping? second, some width, 1 + (chomping? second).toList.length)
    | none, none => (none, none, 0)
  if width = some 0 then none
  else ((cursor.skip length).endLine?).map fun cursor => (chomping.getD .clip, width, cursor)

/-- The line breaks between the lines of a block scalar, in reverse, the greatest column seen, and
the place after them and the next line's indentation. Without an indentation all spaces count as
one. A tab in the indentation is an error. -/
def blockGapFrom? (indentation : Option Nat) :
    (reversed : List Char) → (greatest : Nat) → Position → List Char →
    Option (List Char × Nat × Cursor)
  | reversed, greatest, position, [] =>
    some (reversed, max greatest position.column, ⟨position, []⟩)
  | reversed, greatest, position, c :: rest =>
    let greatest := max greatest position.column
    let inside := indentation.all (position.column < ·)
    if inside && c == ' ' then
      blockGapFrom? indentation reversed greatest (position.next c) rest
    else if inside && c == '\t' then none
    else if isBreak c then
      blockGapFrom? indentation (c :: reversed) greatest (position.next c) rest
    else some (reversed, greatest, ⟨position, c :: rest⟩)

/-- The text before a line of a block scalar, in reverse. In a folded scalar a single line break
between two lines that do not begin with a blank becomes a space, and of several the first is
dropped. -/
def foldBlock (folded : Bool) (lineBreak gap : List Char) (afterBlank beforeBlank : Bool) :
    List Char :=
  if folded && lineBreak == ['\n'] && !afterBlank && !beforeBlank then
    if gap.isEmpty then [' '] else gap
  else gap ++ lineBreak

/-- Reads the lines of a block scalar at an indentation. `lineBreak` is the break after the last
line, `gap` the breaks after that. -/
def blockLines? (folded : Bool) (chomping : Chomping) (indentation : Nat) :
    (fuel : Nat) → (reversed lineBreak gap : List Char) → (afterBlank : Bool) → Cursor →
    Option (String × Cursor)
  | 0, _, _, _, _, _ => none
  | fuel + 1, reversed, lineBreak, gap, afterBlank, cursor =>
    if cursor.column = indentation && !cursor.rest.isEmpty then do
      let beforeBlank := cursor.rest.head?.any isBlank
      let (line, atBreak) := cursor.takeWhile (!isBreak ·)
      let reversed :=
        line.reverse ++ (foldBlock folded lineBreak gap afterBlank beforeBlank ++ reversed)
      let next := atBreak.skip 1
      let (gap, _, cursor) ← blockGapFrom? (some indentation) [] 0 next.position next.rest
      blockLines? folded chomping indentation fuel reversed atBreak.rest.head?.toList gap
        beforeBlank cursor
    else
      let ending := match chomping with
        | .strip => []
        | .clip => lineBreak
        | .keep => gap ++ lineBreak
      some (String.ofList (ending ++ reversed).reverse, cursor)

/-- Reads a block scalar after its indicator. `parent` is the indentation of the collection around
it, absent outside of any. -/
def block? (folded : Bool) (parent : Option Nat) (cursor : Cursor) :
    Option (String × Cursor) := do
  let (chomping, width, cursor) ← blockHeader? cursor
  let given := width.map (parent.getD 0 + ·)
  let (gap, greatest, cursor) ← blockGapFrom? given [] 0 cursor.position cursor.rest
  let least := max 1 ((parent.map (· + 1)).getD 0)
  blockLines? folded chomping (given.getD (max greatest least)) (cursor.rest.length + 1) [] [] gap
    false cursor

end TypedClient.Yaml
