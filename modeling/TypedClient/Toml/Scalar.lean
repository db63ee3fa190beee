/-
# TOML scalars

Reading strings, numbers, truth values and dates. Strings are read up to their closing quote; the
others are words, which are checked as a whole.
-/

import TypedClient.Number.Word
import TypedClient.Json.Basic
import TypedClient.Text.Lines

namespace TypedClient.Toml

/-- Whether a character may stand in a comment or a string: not a control other than tab. -/
def isPrintable (c : Char) : Bool :=
  c = '\t' || (0x20 ≤ c.toNat && c.toNat ≠ 0x7f)

/-- The character with a code, which is not a surrogate. -/
def charOfCode? (code : Nat) : Option Char :=
  if (0xd800 ≤ code && code ≤ 0xdfff) || 0x10ffff < code then none else some (Char.ofNat code)

/-- The character of an escape after its backslash, and the text after it. -/
def escapedChar? : List Char → Option (Char × List Char)
  | [] => none
  | c :: rest =>
    match [('b', '\x08'), ('t', '\t'), ('n', '\n'), ('f', '\x0c'), ('r', '\r'), ('"', '"'),
        ('\\', '\\')].lookup c, [('u', 4), ('U', 8)].lookup c with
    | some meant, _ => some (meant, rest)
    | none, some width => do
      let digits ← (rest.take width).mapM Text.hexValue?
      if digits.length < width then none
      let meant ← charOfCode? (digits.foldl (fun n d => n * 16 + d) 0)
      some (meant, rest.drop width)
    | none, none => none

/-- The rest of a string in one line after its opening quote. Only a basic string has escapes. -/
def lineString? (quote : Char) : (fuel : Nat) → (reversed : List Char) → List Char →
    Option (String × List Char)
  | 0, _, _ => none
  | _ + 1, _, [] => none
  | fuel + 1, reversed, c :: rest =>
    if c = quote then some (String.ofList reversed.reverse, rest)
    else if quote = '"' && c = '\\' then do
      let (meant, rest) ← escapedChar? rest
      lineString? quote fuel (meant :: reversed) rest
    else if isPrintable c then lineString? quote fuel (c :: reversed) rest
    else none

/-- The text after a backslash at the end of a line and the blank text that follows it. -/
def continued? (rest : List Char) : Option (List Char) :=
  match rest.dropWhile fun c => c = ' ' || c = '\t' with
  | '\n' :: rest => some (rest.dropWhile fun c => c = ' ' || c = '\t' || c = '\n')
  | _ => none

/-- The rest of a string over several lines after its opening quotes. Of a run of quotes, the last
three close it and at most two more belong to it. -/
def linesString? (quote : Char) : (fuel : Nat) → (reversed : List Char) → List Char →
    Option (String × List Char)
  | 0, _, _ => none
  | _ + 1, _, [] => none
  | fuel + 1, reversed, c :: rest =>
    if c = quote then
      let run := 1 + (rest.takeWhile (· = quote)).length
      let inside := if run < 3 then run else min (run - 3) 2
      let reversed := List.replicate inside quote ++ reversed
      if run < 3 then linesString? quote fuel reversed ((c :: rest).drop run)
      else some (String.ofList reversed.reverse, (c :: rest).drop (inside + 3))
    else if quote = '"' && c = '\\' then
      match continued? rest with
      | some rest => linesString? quote fuel reversed rest
      | none => do
        let (meant, rest) ← escapedChar? rest
        linesString? quote fuel (meant :: reversed) rest
    else if isPrintable c || c = '\n' then linesString? quote fuel (c :: reversed) rest
    else none

/-- A string and the text after it. A line feed directly after the opening quotes of a string over
several lines is not part of it. -/
def string? (cs : List Char) : Option (String × List Char) :=
  match cs with
  | a :: b :: c :: rest =>
    if (a = '"' || a = '\'') && b = a && c = a then
      let body := match rest with
        | '\n' :: rest => rest
        | rest => rest
      linesString? a (body.length + 1) [] body
    else if a = '"' || a = '\'' then lineString? a (rest.length + 3) [] (b :: c :: rest)
    else none
  | a :: rest =>
    if a = '"' || a = '\'' then lineString? a (rest.length + 1) [] rest else none
  | [] => none

/-- The digits of a number whose groups are separated by single underscores. -/
def groupedDigits? (isDigit : Char → Bool) (cs : List Char) : Option (List Char) :=
  let groups := Text.splitOn (· = '_') cs
  if groups.all fun group => !group.isEmpty && group.all isDigit then some groups.flatten else none

/-- The value of digits in a base. -/
def digitsValue (base : Nat) (digits : List Char) : Nat :=
  digits.foldl (fun n c => n * base + (Text.hexValue? c).getD 0) 0

/-- The sign of a number and what follows it. -/
def splitSign : List Char → Bool × List Char
  | '-' :: rest => (true, rest)
  | '+' :: rest => (false, rest)
  | cs => (false, cs)

/-- The digits of a decimal without leading zeros. -/
def decimalDigits? (cs : List Char) : Option (List Char) := do
  let digits ← groupedDigits? Char.isDigit cs
  if digits.head? = some '0' && digits.length > 1 then none else some digits

/-- The whole number of 64 bits that a word is. -/
def integer? (word : List Char) : Option Int :=
  let based? (base : Nat) (rest : List Char) : Option Nat :=
    (groupedDigits? (fun c => (Text.hexValue? c).any (· < base)) rest).map (digitsValue base)
  let value? : Option Int := match word with
    | '0' :: 'x' :: rest => (based? 16 rest).map Int.ofNat
    | '0' :: 'o' :: rest => (based? 8 rest).map Int.ofNat
    | '0' :: 'b' :: rest => (based? 2 rest).map Int.ofNat
    | word =>
      let (negative, rest) := splitSign word
      (decimalDigits? rest).map fun digits =>
        let value : Int := digitsValue 10 digits
        if negative then -value else value
  value?.filter (Number.fitsSigned 64)

/-- The double that a word is: finite, infinite or not a number; the last two as zero. No setting
is a number, so only that it is one matters. -/
def float? (word : List Char) : Option Double := do
  let (negative, rest) := splitSign word
  if rest = "inf".toList || rest = "nan".toList then return .zero negative
  let isExponentMark (c : Char) : Bool := c = 'e' || c = 'E'
  let mantissa := rest.takeWhile (!isExponentMark ·)
  let exponent ← match rest.dropWhile (!isExponentMark ·) with
    | [] => some 0
    | _ :: written =>
      let (negative, digits) := splitSign written
      (groupedDigits? Char.isDigit digits).map fun digits =>
        let value : Int := digitsValue 10 digits
        if negative then -value else value
  let whole ← decimalDigits? (mantissa.takeWhile (· ≠ '.'))
  let fraction ← match mantissa.dropWhile (· ≠ '.') with
    | [] => if mantissa.length = rest.length then none else some []
    | _ :: digits => groupedDigits? Char.isDigit digits
  Double.ofDecimal? negative (digitsValue 10 (whole ++ fraction)) (exponent - fraction.length)

/-- The value of two digits, if it is at most a limit. -/
def twoDigits? (limit : Nat) (a b : Char) : Option Nat :=
  let value := digitsValue 10 [a, b]
  if a.isDigit && b.isDigit && value ≤ limit then some value else none

/-- The number of days in a month. -/
def monthDays (year month : Nat) : Nat :=
  if month = 2 then
    if year % 4 = 0 && (year % 100 ≠ 0 || year % 400 = 0) then 29 else 28
  else if [4, 6, 9, 11].contains month then 30
  else 31

/-- Whether a text is a date; gives the text after it. -/
def afterDate? : List Char → Option (List Char)
  | a :: b :: c :: d :: '-' :: e :: f :: '-' :: g :: h :: rest => do
    let century ← twoDigits? 99 a b
    let year ← twoDigits? 99 c d
    let month ← twoDigits? 12 e f
    let day ← twoDigits? (monthDays (century * 100 + year) month) g h
    if month = 0 || day = 0 then none else some rest
  | _ => none

/-- Whether a text is a time of day; gives the text after it. -/
def afterTime? : List Char → Option (List Char)
  | a :: b :: ':' :: c :: d :: ':' :: e :: f :: rest => do
    let _ ← twoDigits? 23 a b
    let _ ← twoDigits? 59 c d
    let _ ← twoDigits? 60 e f
    match rest with
    | '.' :: fraction =>
      if (fraction.head?.map Char.isDigit).getD false then
        some (fraction.dropWhile Char.isDigit)
      else none
    | rest => some rest
  | _ => none

/-- Whether a text is the offset of a time, or empty. -/
def isOffset : List Char → Bool
  | [] | ['Z'] | ['z'] => true
  | [sign, a, b, ':', c, d] =>
    (sign = '+' || sign = '-') && (twoDigits? 23 a b).isSome && (twoDigits? 59 c d).isSome
  | _ => false

/-- Whether a word is a date, a time, or both. -/
def isDateTime (word : List Char) : Bool :=
  match afterDate? word with
  | some [] => true
  | some (delimiter :: rest) =>
    (delimiter = 'T' || delimiter = 't' || delimiter = ' ') && (afterTime? rest).any isOffset
  | none => afterTime? word = some []

/-- Whether a character may stand in a word. -/
def isWordChar (c : Char) : Bool :=
  c.isAlphanum || c = '+' || c = '-' || c = '_' || c = '.' || c = ':'

/-- A word and the text after it. A date takes in a time after a single space. -/
def word (cs : List Char) : List Char × List Char :=
  let first := cs.takeWhile isWordChar
  let rest := cs.dropWhile isWordChar
  match afterDate? first, rest with
  | some [], ' ' :: d :: rest =>
    if d.isDigit then
      (first ++ ' ' :: (d :: rest).takeWhile isWordChar, (d :: rest).dropWhile isWordChar)
    else (first, ' ' :: d :: rest)
  | _, _ => (first, rest)

/-- What a word stands for. A date is an object that no record has the field of. -/
def wordData? (word : List Char) : Option Json :=
  if word = "true".toList then some (.bool true)
  else if word = "false".toList then some (.bool false)
  else
    match integer? word, float? word with
    | some n, _ => some (.ofInt n)
    | none, some x => some (.number (.double x))
    | none, none =>
      if isDateTime word then some (.object [("datetime", .string (String.ofList word))])
      else none

end TypedClient.Toml
