/-
# Character classes

The classes of characters that identifiers, words and layout are made of. Each class is decided by
comparison on ASCII and by a table of the Unicode character database beyond it, so a fact about an
ASCII character reduces without a table.
-/

import TypedClient.Text.PropertyTable

namespace TypedClient.Text

/-- ASCII characters, on which every class is decided by comparison. -/
def isAscii (c : Char) : Bool :=
  c.toNat < 0x80

/-- Letters, and marks that count as letters. -/
def isAlphabetic (c : Char) : Bool :=
  if isAscii c then c.isAlpha else CodeRun.anyContains alphabeticRuns c.toNat

/-- Digits and numbers of every script. -/
def isNumeric (c : Char) : Bool :=
  if isAscii c then c.isDigit else CodeRun.anyContains numericRuns c.toNat

/-- Letters and numbers. -/
def isAlphanumeric (c : Char) : Bool :=
  isAlphabetic c || isNumeric c

/-- Upper-case letters. -/
def isUppercase (c : Char) : Bool :=
  if isAscii c then c.isUpper else CodeRun.anyContains uppercaseRuns c.toNat

/-- Lower-case letters. -/
def isLowercase (c : Char) : Bool :=
  if isAscii c then c.isLower else CodeRun.anyContains lowercaseRuns c.toNat

/-- Letters that have a case. -/
def isCased (c : Char) : Bool :=
  isUppercase c || isLowercase c ||
    (!isAscii c && CodeRun.anyContains titlecaseRuns c.toNat)

/-- The ASCII signs a word may hold without ending it for case purposes. -/
def asciiCaseIgnorable : List Char :=
  ['\'', '.', ':', '^', '\x60']

/-- Marks and signs a word may hold without ending it for case purposes. -/
def isCaseIgnorable (c : Char) : Bool :=
  if isAscii c then asciiCaseIgnorable.contains c
  else CodeRun.anyContains caseIgnorableRuns c.toNat

/-- White space, as trimming and blank-line tests see it. -/
def isWhiteSpace (c : Char) : Bool :=
  if isAscii c then c == ' ' || (0x09 ≤ c.toNat && c.toNat ≤ 0x0d)
  else CodeRun.anyContains whiteSpaceRuns c.toNat

/-- Control characters: those below the space, delete, and the second control block. -/
def isControl (c : Char) : Bool :=
  c.toNat < 0x20 || (0x7f ≤ c.toNat && c.toNat < 0xa0)

/-- ASCII letters and digits. -/
def isAsciiAlphanumeric (c : Char) : Bool :=
  c.isAlpha || c.isDigit

end TypedClient.Text
