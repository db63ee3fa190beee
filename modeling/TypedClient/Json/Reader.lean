/-
# Reading JSON

The strict grammar of JSON over a list of characters. Arrays and objects nest below a fixed depth,
a repeated key keeps its first place and takes its last value, an escape that is half of a
surrogate pair is an error, and so is a number beyond the range of doubles.

A number that is written as a whole number of 64 bits is one. Any other is a double, scaled from
its leading digits: digits are collected as long as they fit 64 bits, later digits of the whole
part only raise the exponent, and later digits of the fraction are dropped.
-/

import TypedClient.Number.Word
import TypedClient.Json.Basic
import TypedClient.Text.Lines

namespace TypedClient

namespace Json

namespace Reader

/-- The blanks of JSON. -/
def isBlank (c : Char) : Bool :=
  c == ' ' || c == '\t' || c == '\n' || c == '\r'

/-- The text after its leading blanks. -/
def skipBlanks (cs : List Char) : List Char :=
  cs.dropWhile isBlank

/-- The largest unsigned number of 64 bits. -/
def maxUnsigned : Nat := Number.wordValues 64 - 1

/-- The value of a digit. -/
def digitValue (c : Char) : Nat := c.toNat - '0'.toNat

/-- Collects digits of the whole part; gives the number collected and how many digits no longer
fit. -/
def collectWhole : (significand : Nat) → List Char → Nat × Nat
  | significand, [] => (significand, 0)
  | significand, d :: ds =>
    let next := significand * 10 + digitValue d
    if next ≤ maxUnsigned then collectWhole next ds else (significand, ds.length + 1)

/-- Collects digits of the fraction; gives the number collected and how many digits it took. -/
def collectFraction : (significand taken : Nat) → List Char → Nat × Nat
  | significand, taken, [] => (significand, taken)
  | significand, taken, d :: ds =>
    let next := significand * 10 + digitValue d
    if next ≤ maxUnsigned then collectFraction next (taken + 1) ds else (significand, taken)

/-- The greatest power of ten one scaling step covers. -/
def stepLimit : Nat := 308

/-- A significand scaled by a power of ten in steps that each round. -/
def scale? (negative : Bool) (significand : Nat) (exponent : Int) : Option Double := do
  let start ← Double.ofNat? negative significand
  if 0 ≤ exponent then
    if exponent ≤ stepLimit then start.scaleBy? (.powerOfTen exponent.natAbs)
    else if start.units = 0 then some start
    else none
  else if exponent.natAbs ≤ stepLimit then
    start.divideBy? (.powerOfTen exponent.natAbs)
  else if exponent.natAbs ≤ 2 * stepLimit then
    (← start.divideBy? (.powerOfTen stepLimit)).divideBy?
      (.powerOfTen (exponent.natAbs - stepLimit))
  else some (.zero negative)

/-- The exponent part of a number, if there is one, and the text after it. -/
def readExponent (cs : List Char) : Option (Option Int × List Char) :=
  match cs with
  | 'e' :: rest | 'E' :: rest =>
    let (negative, rest) := match rest with
      | '+' :: r => (false, r)
      | '-' :: r => (true, r)
      | r => (false, r)
    let digits := rest.takeWhile Char.isDigit
    if digits.isEmpty then none
    else
      let value : Nat := digits.foldl (fun n d => n * 10 + digitValue d) 0
      some (some (if negative then -(value : Int) else value), rest.dropWhile Char.isDigit)
  | _ => some (none, cs)

/-- The fraction part of a number, if there is one, and the text after it. -/
def readFraction (cs : List Char) : Option (Option (List Char) × List Char) :=
  match cs with
  | '.' :: rest =>
    let digits := rest.takeWhile Char.isDigit
    if digits.isEmpty then none else some (some digits, rest.dropWhile Char.isDigit)
  | _ => some (none, cs)

/-- A whole number without fraction or exponent: an integer of 64 bits, else a double. Minus zero
is a double. -/
def wholeNumber? (negative : Bool) (significand extra : Nat) : Option JsonNumber :=
  if extra = 0 && !negative then some (.whole significand)
  else if extra = 0 && 0 < significand && significand ≤ Number.wordValues 63 then
    some (.whole (-(significand : Int)))
  else (scale? negative significand extra).map .double

/-- A number after its sign, and the text after it. -/
def readUnsigned (negative : Bool) (cs : List Char) : Option (JsonNumber × List Char) := do
  let digits := cs.takeWhile Char.isDigit
  if digits.isEmpty || (digits.head? == some '0' && digits.length > 1) then none
  let (significand, extra) := collectWhole 0 digits
  let (fraction, rest) ← readFraction (cs.dropWhile Char.isDigit)
  let (exponent, rest) ← readExponent rest
  match fraction, exponent with
  | none, none => some (← wholeNumber? negative significand extra, rest)
  | _, _ =>
    let (significand, taken) := collectFraction significand 0 (fraction.getD [])
    let value ← scale? negative significand ((extra : Int) - taken + exponent.getD 0)
    some (.double value, rest)

/-- A number and the text after it. -/
def readNumber : List Char → Option (JsonNumber × List Char)
  | '-' :: rest => readUnsigned true rest
  | cs => readUnsigned false cs

/-- Four hexadecimal digits and the text after them. -/
def readCodeUnit : List Char → Option (Nat × List Char)
  | a :: b :: c :: d :: rest => do
    let digits ← [a, b, c, d].mapM Text.hexValue?
    some (digits.foldl (fun n x => n * 16 + x) 0, rest)
  | _ => none

/-- The character of a `u` escape, which may take a second escape, and the text after it. -/
def readUnicodeEscape (cs : List Char) : Option (Char × List Char) := do
  let (unit, rest) ← readCodeUnit cs
  if 0xdc00 ≤ unit && unit < 0xe000 then none
  else if 0xd800 ≤ unit && unit < 0xdc00 then
    match rest with
    | '\\' :: 'u' :: rest =>
      let (low, rest) ← readCodeUnit rest
      if 0xdc00 ≤ low && low < 0xe000 then
        some (Char.ofNat (0x10000 + (unit - 0xd800) * 0x400 + (low - 0xdc00)), rest)
      else none
    | _ => none
  else some (Char.ofNat unit, rest)

/-- The rest of a string after its opening quote, and the text after its closing quote. -/
def readString : (fuel : Nat) → (reversed : List Char) → List Char →
    Option (String × List Char)
  | 0, _, _ => none
  | fuel + 1, reversed, cs =>
    match cs with
    | '"' :: rest => some (String.ofList reversed.reverse, rest)
    | '\\' :: 'u' :: rest => do
      let (c, rest) ← readUnicodeEscape rest
      readString fuel (c :: reversed) rest
    | '\\' :: c :: rest => do
      let meant ← [('"', '"'), ('\\', '\\'), ('/', '/'), ('b', '\x08'), ('f', '\x0c'),
        ('n', '\n'), ('r', '\r'), ('t', '\t')].lookup c
      readString fuel (meant :: reversed) rest
    | c :: rest => if c.toNat < 0x20 then none else readString fuel (c :: reversed) rest
    | [] => none

/-- The number of arrays and objects that may be open at once. -/
def depthLimit : Nat := 127

mutual

/-- A value that starts the text, and the text after it; `depth` more arrays and objects may
open. -/
def readValue : (fuel depth : Nat) → List Char → Option (Json × List Char)
  | 0, _, _ => none
  | fuel + 1, depth, cs =>
    match cs with
    | 'n' :: 'u' :: 'l' :: 'l' :: rest => some (.null, rest)
    | 't' :: 'r' :: 'u' :: 'e' :: rest => some (.bool true, rest)
    | 'f' :: 'a' :: 'l' :: 's' :: 'e' :: rest => some (.bool false, rest)
    | '"' :: rest => (readString (rest.length + 1) [] rest).map fun (s, r) => (.string s, r)
    | '[' :: rest =>
      match depth with
      | 0 => none
      | depth + 1 =>
        match skipBlanks rest with
        | ']' :: rest => some (.array [], rest)
        | rest => (readItems fuel depth rest).map fun (items, r) => (.array items, r)
    | '{' :: rest =>
      match depth with
      | 0 => none
      | depth + 1 =>
        match skipBlanks rest with
        | '}' :: rest => some (.object [], rest)
        | rest => (readMembers fuel depth rest).map fun (members, r) =>
            (.object (collectMembers members), r)
    | cs => (readNumber cs).map fun (n, r) => (.number n, r)

/-- The items of an array from its next item on, and the text after its closing bracket. -/
def readItems : (fuel depth : Nat) → List Char → Option (List Json × List Char)
  | 0, _, _ => none
  | fuel + 1, depth, cs => do
    let (item, rest) ← readValue fuel depth (skipBlanks cs)
    match skipBlanks rest with
    | ',' :: rest =>
      let (items, rest) ← readItems fuel depth rest
      some (item :: items, rest)
    | ']' :: rest => some ([item], rest)
    | _ => none

/-- The members of an object from its next member on, and the text after its closing brace. -/
def readMembers : (fuel depth : Nat) → List Char → Option (List (String × Json) × List Char)
  | 0, _, _ => none
  | fuel + 1, depth, cs =>
    match skipBlanks cs with
    | '"' :: rest => do
      let (key, rest) ← readString (rest.length + 1) [] rest
      match skipBlanks rest with
      | ':' :: rest =>
        let (value, rest) ← readValue fuel depth (skipBlanks rest)
        match skipBlanks rest with
        | ',' :: rest =>
          let (members, rest) ← readMembers fuel depth rest
          some ((key, value) :: members, rest)
        | '}' :: rest => some ([(key, value)], rest)
        | _ => none
      | _ => none
    | _ => none

end

end Reader

/-- The value a JSON text stands for, if it is one. -/
def parse? (text : String) : Option Json := do
  let cs := Reader.skipBlanks text.toList
  let (value, rest) ← Reader.readValue (2 * cs.length + 2) Reader.depthLimit cs
  if (Reader.skipBlanks rest).isEmpty then some value else none

end Json

end TypedClient
