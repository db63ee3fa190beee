/-
# Lines, trimming and replacement

Text operations on lists of characters, with their string forms. A line ends at a line feed, and a
carriage return directly before the line feed belongs to the line end.
-/

import TypedClient.Text.CharClass

namespace TypedClient.Text

/-- Drops the trailing characters that satisfy `p`. -/
def dropEndWhile (p : Char → Bool) (cs : List Char) : List Char :=
  (cs.reverse.dropWhile p).reverse

/-- A line's characters from their reverse, without the carriage return of its line end. -/
def closeLine : (reversed : List Char) → List Char
  | '\r' :: cs => cs.reverse
  | cs => cs.reverse

/-- The lines of a text, given the current line's characters in reverse. A last line with no line
feed after it counts only if it is not empty. -/
def linesFrom : (current : List Char) → List Char → List (List Char)
  | [], [] => []
  | c :: current, [] => [(c :: current).reverse]
  | current, '\n' :: rest => closeLine current :: linesFrom [] rest
  | current, c :: rest => linesFrom (c :: current) rest

/-- The lines of a text, without their line ends. -/
def lineLists (cs : List Char) : List (List Char) :=
  linesFrom [] cs

/-- The lines of a string, without their line ends. -/
def lines (s : String) : List String :=
  (lineLists s.toList).map String.ofList

/-- A text without the white space at its end. -/
def trimEndList (cs : List Char) : List Char :=
  dropEndWhile isWhiteSpace cs

/-- A text without the white space at both ends. -/
def trimList (cs : List Char) : List Char :=
  trimEndList (cs.dropWhile isWhiteSpace)

/-- A string without the white space at its end. -/
def trimEnd (s : String) : String :=
  String.ofList (trimEndList s.toList)

/-- A string without the white space at both ends. -/
def trim (s : String) : String :=
  String.ofList (trimList s.toList)

/-- Whether a string has nothing but white space. -/
def isBlank (s : String) : Bool :=
  s.toList.all isWhiteSpace

/-- Replaces the occurrences of `pattern` from left to right without overlap, passing over `skip`
characters first; `pattern` is not empty. -/
def replaceFrom (pattern replacement : List Char) : (skip : Nat) → List Char → List Char
  | _, [] => []
  | skip + 1, _ :: rest => replaceFrom pattern replacement skip rest
  | 0, c :: rest =>
    if pattern.isPrefixOf (c :: rest) then
      replacement ++ replaceFrom pattern replacement (pattern.length - 1) rest
    else c :: replaceFrom pattern replacement 0 rest

/-- Replaces every occurrence of a non-empty pattern. -/
def replaceAll (pattern replacement s : String) : String :=
  String.ofList (replaceFrom pattern.toList replacement.toList 0 s.toList)

/-- The pieces of a text between the characters that satisfy `p`, given the current piece's
characters in reverse. -/
def splitFrom (p : Char → Bool) : (current : List Char) → List Char → List (List Char)
  | current, [] => [current.reverse]
  | current, c :: rest =>
    if p c then current.reverse :: splitFrom p [] rest else splitFrom p (c :: current) rest

/-- The pieces of a text between the characters that satisfy `p`, empty ones included. -/
def splitOn (p : Char → Bool) (cs : List Char) : List (List Char) :=
  splitFrom p [] cs

/-- The text before the first character that satisfies `p` and the text after it. -/
def splitOnce (p : Char → Bool) : List Char → Option (List Char × List Char)
  | [] => none
  | c :: rest =>
    if p c then some ([], rest) else (splitOnce p rest).map fun (a, b) => (c :: a, b)

/-- Whether a text occurs in another. -/
def occursIn (pattern : List Char) : List Char → Bool
  | [] => pattern.isEmpty
  | c :: rest => pattern.isPrefixOf (c :: rest) || occursIn pattern rest

/-- Whether a string occurs in another. -/
def contains (s pattern : String) : Bool :=
  occursIn pattern.toList s.toList

/-- Whether a string begins with another. -/
def startsWith (s start : String) : Bool :=
  start.toList.isPrefixOf s.toList

/-- Whether a string ends with another. -/
def endsWith (s ending : String) : Bool :=
  ending.toList.reverse.isPrefixOf s.toList.reverse

/-- The rest of a string after a given beginning. -/
def dropStart? (s start : String) : Option String :=
  if startsWith s start then some (String.ofList (s.toList.drop start.toList.length)) else none

/-- The last `width` hexadecimal digits of a number, in lower case. -/
def hexDigits : (width : Nat) → (value : Nat) → List Char
  | 0, _ => []
  | width + 1, value => hexDigits width (value / 16) ++ [Nat.digitChar (value % 16)]

/-- The value of a hexadecimal digit. -/
def hexValue? (c : Char) : Option Nat :=
  if c.isDigit then some (c.toNat - '0'.toNat)
  else if 'a' ≤ c && c ≤ 'f' then some (c.toNat - 'a'.toNat + 10)
  else if 'A' ≤ c && c ≤ 'F' then some (c.toNat - 'A'.toNat + 10)
  else none

end TypedClient.Text
