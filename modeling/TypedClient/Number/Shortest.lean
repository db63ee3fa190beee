/-
# Shortest decimal digits

The digits that print a double are the fewest that read back as it. For one digit, two digits and
so on, the two neighbours of the value on that decimal grid are tried; the first grid with a point
inside the rounding interval decides, and of two such points the nearer one is taken, a tie going
to the even last digit.
-/

import TypedClient.Number.Double

namespace TypedClient.Number

/-- A positive decimal: the number `digits`, whose last digit stands at ten to `exponent`. -/
structure Decimal where
  digits : Nat
  exponent : Int
  deriving DecidableEq, Repr

/-- The reals that round to a magnitude, with its value and ends in quarter units. -/
structure RoundingInterval where
  value : Nat
  lower : Nat
  upper : Nat
  /-- Whether the ends round to the value too. -/
  closed : Bool

/-- The rounding interval of a positive magnitude. Below a power of two the spacing is half of what
it is above. -/
def RoundingInterval.ofUnits (units : Nat) : RoundingInterval :=
  let gap := Nat.pow 2 (Double.spacing units)
  let narrow := Double.spacing units > 0 && units == Nat.pow 2 (Nat.log2 units)
  { value := 4 * units
    lower := 4 * units - (if narrow then gap else 2 * gap)
    upper := 4 * units + 2 * gap
    closed := (units / gap) % 2 == 0 }

/-- Whether `num / den`, in quarter units, lies in the interval. -/
def RoundingInterval.holds (interval : RoundingInterval) (num den : Nat) : Bool :=
  if interval.closed then interval.lower * den ≤ num && num ≤ interval.upper * den
  else interval.lower * den < num && num < interval.upper * den

/-- A decimal grid: its points are the multiples of `num / den` quarter units. -/
structure Grid where
  num : Nat
  den : Nat

/-- The grid of the multiples of ten to `exponent`. -/
def Grid.ofExponent (exponent : Int) : Grid :=
  if exponent < 0 then ⟨4 * Double.unitsPerOne, Nat.pow 10 exponent.natAbs⟩
  else ⟨4 * Double.unitsPerOne * Nat.pow 10 exponent.natAbs, 1⟩

/-- The grid point that prints the value, if one of the value's two neighbours is in the
interval. -/
def RoundingInterval.pointOn? (interval : RoundingInterval) (grid : Grid) : Option Nat :=
  let below := interval.value * grid.den / grid.num
  let inside (point : Nat) : Bool := point > 0 && interval.holds (point * grid.num) grid.den
  match inside below, inside (below + 1) with
  | true, true =>
    let target := 2 * interval.value * grid.den
    let middle := (2 * below + 1) * grid.num
    if target < middle || (target == middle && below % 2 == 0) then some below
    else some (below + 1)
  | true, false => some below
  | false, true => some (below + 1)
  | false, false => none

/-- The first point found on ever finer grids, starting from ten to `exponent`. -/
def RoundingInterval.search (interval : RoundingInterval) : (grids : Nat) → Int → Decimal
  | 0, exponent =>
    let grid := Grid.ofExponent exponent
    ⟨interval.value * grid.den / grid.num, exponent⟩
  | grids + 1, exponent =>
    match interval.pointOn? (Grid.ofExponent exponent) with
    | some digits => ⟨digits, exponent⟩
    | none => interval.search grids (exponent - 1)

/-- The exponent of the leading decimal digit of a positive fraction, found from an estimate. -/
def leadingExponent (num den : Nat) : Int :=
  if num ≥ den then (((Nat.toDigits 10 (num / den)).length : Nat) : Int) - 1
  else
    let scale := (Nat.toDigits 10 (den / num)).length
    if num * Nat.pow 10 (scale - 1) ≥ den then -((scale : Int) - 1) else -(scale : Int)

/-- The shortest decimal of a positive magnitude. One grid coarser than the leading digit is tried
first, for values that round up to a power of ten; seventeen digits always suffice. -/
def shortest (units : Nat) : Decimal :=
  (RoundingInterval.ofUnits units).search 18 (leadingExponent units Double.unitsPerOne + 1)

/-- How the text of a double is laid out. -/
structure DoubleLayout where
  /-- The least position of the decimal point, counted in digits from the first digit, that is
  written without an exponent. -/
  leastPoint : Int
  /-- The greatest such position. -/
  greatestPoint : Int
  /-- Whether a positive exponent has a sign. -/
  signedExponent : Bool

/-- The text of a decimal whose point comes after `point` of its digits. -/
def DoubleLayout.positional (digits : List Char) (point : Int) : List Char :=
  if point ≤ 0 then '0' :: '.' :: List.replicate point.natAbs '0' ++ digits
  else if point.natAbs < digits.length then
    digits.take point.natAbs ++ '.' :: digits.drop point.natAbs
  else digits ++ List.replicate (point.natAbs - digits.length) '0' ++ ['.', '0']

/-- The text of a decimal with an exponent. -/
def DoubleLayout.scientific (layout : DoubleLayout) (digits : List Char) (point : Int) :
    List Char :=
  let mantissa := match digits with
    | first :: second :: rest => first :: '.' :: second :: rest
    | short => short
  let exponent := point - 1
  let sign := if exponent < 0 then ['-'] else if layout.signedExponent then ['+'] else []
  mantissa ++ 'e' :: sign ++ Nat.toDigits 10 exponent.natAbs

/-- The text of a double. -/
def DoubleLayout.text (layout : DoubleLayout) (x : Double) : String :=
  let body :=
    if x.units = 0 then ['0', '.', '0']
    else
      let decimal := shortest x.units
      let digits := Nat.toDigits 10 decimal.digits
      let point := decimal.exponent + digits.length
      if layout.leastPoint ≤ point && point ≤ layout.greatestPoint then
        DoubleLayout.positional digits point
      else layout.scientific digits point
  String.ofList (if x.negative then '-' :: body else body)

end TypedClient.Number
