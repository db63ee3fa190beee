/-
# Addresses in numbers

The two written forms of a network address that a host may have: up to four numbers with dots
between them, and up to eight groups of hexadecimal digits with colons between them.
-/

import TypedClient.Text.Lines

namespace TypedClient.Url

/-- The value of digits in a base, if each is a digit of it. -/
def numberIn? (base : Nat) (digits : List Char) : Option Nat :=
  digits.foldlM (fun value c => do
    let digit ← Text.hexValue? c
    if digit < base then some (value * base + digit) else none) 0

/-- A number in a dotted address: hexadecimal after `0x`, octal after `0`, else decimal. -/
def dottedNumber? : List Char → Option Nat
  | [] => none
  | ['0'] => some 0
  | '0' :: c :: digits =>
    if c = 'x' || c = 'X' then numberIn? 16 digits else numberIn? 8 (c :: digits)
  | digits => numberIn? 10 digits

/-- The parts of a dotted name, less an empty one at the end. -/
def dottedParts (cs : List Char) : List (List Char) :=
  let parts := Text.splitOn (· = '.') cs
  if 1 < parts.length && parts.getLast? = some [] then parts.dropLast else parts

/-- Whether the last part of a dotted name is a number, so that it has to be an address. -/
def endsInNumber (cs : List Char) : Bool :=
  match (dottedParts cs).getLast? with
  | some part => (part ≠ [] && part.all Char.isDigit) || (dottedNumber? part).isSome
  | none => false

/-- Whether numbers make an address: the last one fills the bytes that the others leave. -/
def fillFourBytes : (free : Nat) → List Nat → Bool
  | 0, _ => false
  | _, [] => false
  | free, [last] => last < Nat.pow 256 free
  | free + 1, number :: rest => number < 256 && fillFourBytes free rest

/-- Whether a dotted name is an address of four bytes. -/
def isDottedAddress (cs : List Char) : Bool :=
  match (dottedParts cs).mapM dottedNumber? with
  | some numbers => fillFourBytes 4 numbers
  | none => false

/-- Whether a text is a decimal number below 256 without leading zeros. -/
def isByte (digits : List Char) : Bool :=
  digits ≠ [] && (digits.length = 1 || digits.head? ≠ some '0') &&
    (numberIn? 10 digits).any (· < 256)

/-- Whether a text is four bytes with dots between them. -/
def isFourBytes (cs : List Char) : Bool :=
  let parts := Text.splitOn (· = '.') cs
  parts.length = 4 && parts.all isByte

/-- Whether a text is a group of one to four hexadecimal digits. -/
def isHexGroup (cs : List Char) : Bool :=
  cs ≠ [] && cs.length ≤ 4 && cs.all fun c => (Text.hexValue? c).isSome

/-- How many groups a list of texts stands for; the last one may be four bytes, which are two
groups, if `mayEndInBytes`. -/
def groupCount? (mayEndInBytes : Bool) : List (List Char) → Option Nat
  | [] => some 0
  | group :: rest =>
    if isHexGroup group then (groupCount? mayEndInBytes rest).map (· + 1)
    else if mayEndInBytes && rest.isEmpty && isFourBytes group then some 2
    else none

/-- The groups of a text; no text has none. -/
def groupsOf (cs : List Char) : List (List Char) :=
  if cs = [] then [] else Text.splitOn (· = ':') cs

/-- The text before the first double colon and the text after it. -/
def splitDoubleColon : List Char → Option (List Char × List Char)
  | [] => none
  | ':' :: ':' :: rest => some ([], rest)
  | c :: rest => (splitDoubleColon rest).map fun (a, b) => (c :: a, b)

/-- Whether a text is an address of eight groups; a double colon takes the place of one group or
more. -/
def isGroupedAddress (cs : List Char) : Bool :=
  match splitDoubleColon cs with
  | none => groupCount? true (groupsOf cs) = some 8
  | some (before, after) =>
    match groupCount? false (groupsOf before), groupCount? true (groupsOf after) with
    | some m, some n => m + n ≤ 7
    | _, _ => false

end TypedClient.Url
