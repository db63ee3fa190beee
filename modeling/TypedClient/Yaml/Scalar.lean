/-
# The core schema

What a scalar stands for. Text without quotes may be null, a truth value or a number; other text,
and text under a tag that the schema does not have, is itself. A whole number beyond 64 bits has no
value unless it is beyond 128 bits, where it is a double. A double that is not finite is null.
-/

import TypedClient.Number.Word
import TypedClient.Json.Basic
import TypedClient.Text.Lines

namespace TypedClient.Yaml

/-- The truth value a text stands for. -/
def readBool? (s : String) : Option Bool :=
  if ["true", "True", "TRUE"].contains s then some true
  else if ["false", "False", "FALSE"].contains s then some false
  else none

/-- Whether a text stands for null. -/
def isNullText (s : String) : Bool :=
  ["null", "Null", "NULL", "~"].contains s

/-- The value of one or more digits in a base. -/
def digitsValue? (base : Nat) (cs : List Char) : Option Nat :=
  if cs.isEmpty then none
  else cs.foldlM (fun n c => do
    let digit ← Text.hexValue? c
    if digit < base then some (n * base + digit) else none) 0

/-- Whether a text has no sign, or one. -/
def dropSign : List Char → List Char
  | '-' :: rest | '+' :: rest => rest
  | cs => cs

/-- Whether a text is decimal digits after a leading zero, with or without a sign: that is no
number. -/
def hasLeadingZero (cs : List Char) : Bool :=
  match dropSign cs with
  | '0' :: d :: rest => (d :: rest).all Char.isDigit
  | _ => false

/-- The value of digits after a mark of their base. -/
def basedValue? : List Char → Option Nat
  | '0' :: 'x' :: rest => digitsValue? 16 rest
  | '0' :: 'o' :: rest => digitsValue? 8 rest
  | '0' :: 'b' :: rest => digitsValue? 2 rest
  | _ => none

/-- The whole number that a text is, of whatever size. -/
def readWhole? (cs : List Char) : Option Int :=
  let decimal? (cs : List Char) : Option Nat := do
    let value ← digitsValue? 10 cs
    if hasLeadingZero cs then none else some value
  match cs with
  | '-' :: rest => ((basedValue? rest).orElse fun _ => decimal? rest).map fun n => -(n : Int)
  | '+' :: rest => ((basedValue? rest).orElse fun _ => decimal? rest).map fun n => (n : Int)
  | cs => ((basedValue? cs).orElse fun _ => decimal? cs).map fun n => (n : Int)

/-- The exponent after the digits of a number, if it has one; nothing if it is malformed. -/
def readExponent? : List Char → Option Int
  | [] => some 0
  | e :: rest =>
    if e = 'e' || e = 'E' then
      match rest with
      | '-' :: digits => (digitsValue? 10 digits).map fun n => -(n : Int)
      | '+' :: digits => (digitsValue? 10 digits).map fun n => (n : Int)
      | digits => (digitsValue? 10 digits).map fun n => (n : Int)
    else none

/-- The decimal that a text without sign is: a significand and an exponent of ten. There is a digit
before or after the point. -/
def readDecimal? (cs : List Char) : Option (Nat × Int) := do
  let whole := cs.takeWhile Char.isDigit
  let rest := cs.dropWhile Char.isDigit
  let (fraction, rest) := match rest with
    | '.' :: rest => (rest.takeWhile Char.isDigit, rest.dropWhile Char.isDigit)
    | rest => ([], rest)
  let significand ← digitsValue? 10 (whole ++ fraction)
  let exponent ← readExponent? rest
  some (significand, exponent - fraction.length)

/-- A double that a text stands for. -/
inductive FloatValue where
  | finite (value : Double)
  /-- Infinity or not a number. -/
  | special
  deriving DecidableEq, Repr

/-- The double that a text stands for. -/
def readFloat? (s : String) : Option FloatValue :=
  if [".inf", ".Inf", ".INF", "+.inf", "+.Inf", "+.INF", "-.inf", "-.Inf", "-.INF",
      ".nan", ".NaN", ".NAN"].contains s then some .special
  else do
    let (significand, exponent) ← readDecimal? (dropSign s.toList)
    let value ← Double.ofDecimal? (s.toList.head? = some '-') significand exponent
    some (.finite value)

/-- The value of a double. -/
def FloatValue.json : FloatValue → Json
  | .finite value => .number (.double value)
  | .special => .null

/-- The value of text without quotes or tag. -/
def plainValue? (s : String) : Option Json :=
  if s = "" || isNullText s then some .null
  else
    match readBool? s, (readWhole? s.toList).filter (Number.fitsWord 128) with
    | some b, _ => some (.bool b)
    | none, some n => if Number.fitsWord 64 n then some (.ofInt n) else none
    | none, none =>
      if hasLeadingZero s.toList then some (.string s)
      else some (((readFloat? s).map FloatValue.json).getD (.string s))

/-- The value of a scalar. A local tag has no value. -/
def scalarValue? (tag : Option String) (text : String) (plain : Bool) : Option Json :=
  match tag with
  | none => if plain then plainValue? text else some (.string text)
  | some "tag:yaml.org,2002:bool" => (readBool? text).map .bool
  | some "tag:yaml.org,2002:int" =>
    ((readWhole? text.toList).filter (Number.fitsWord 64)).map .ofInt
  | some "tag:yaml.org,2002:float" => (readFloat? text).map FloatValue.json
  | some "tag:yaml.org,2002:null" => if isNullText text then some .null else none
  | some tag => if Text.startsWith tag "!" then none else some (.string text)

end TypedClient.Yaml
