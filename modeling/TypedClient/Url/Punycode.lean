/-
# Punycode

Labels of a host name that are not ASCII have a written form in ASCII: the ASCII characters of the
label, and then, digit by digit in base 36, where the others are inserted. The digits of one number
end at a digit below a threshold, which adapts to the numbers seen before.
-/

namespace TypedClient.Punycode

/-- The value of a digit: letters, and then the ten decimal digits. -/
def digitValue? (c : Char) : Option Nat :=
  if c.isLower then some (c.toNat - 'a'.toNat)
  else if c.isUpper then some (c.toNat - 'A'.toNat)
  else if c.isDigit then some (c.toNat - '0'.toNat + 26)
  else none

/-- The least digit that does not end its number, at a place given as 36 times its index plus 36. -/
def threshold (place bias : Nat) : Nat :=
  min 26 (max 1 (place - bias))

/-- Scales a difference down to at most 455; each scaling adds to the bias. -/
def scale (difference bias : Nat) : Nat × Nat :=
  if 455 < difference then scale (difference / 35) (bias + 36) else (difference, bias)
termination_by difference
decreasing_by omega

/-- The bias after a number: `count` is how many characters there are then. -/
def adapt (difference count : Nat) (isFirst : Bool) : Nat :=
  let damped := if isFirst then difference / 700 else difference / 2
  let (scaled, bias) := scale (damped + damped / count) 0
  bias + 36 * scaled / (scaled + 38)

/-- What has been read: the characters so far, the code of the character inserted last and the place
after it, and the number at hand. -/
structure State where
  decoded : List Char
  code : Nat := 128
  position : Nat := 0
  bias : Nat := 72
  number : Nat := 0
  weight : Nat := 1
  place : Nat := 36

namespace State

/-- Inserts the character that a finished number stands for. -/
def insert? (state : State) (number : Nat) : Option State :=
  let count := state.decoded.length + 1
  let total := state.position + number
  let code := state.code + total / count
  let position := total % count
  if code.isValidChar then
    some {
      decoded := state.decoded.take position ++ Char.ofNat code :: state.decoded.drop position
      code := code
      position := position + 1
      bias := adapt number count (state.position = 0) }
  else none

/-- Reads one digit. -/
def step? (state : State) (c : Char) : Option State := do
  let digit ← digitValue? c
  let number := state.number + digit * state.weight
  let limit := threshold state.place state.bias
  if digit < limit then state.insert? number
  else
    some { state with
      number := number, weight := state.weight * (36 - limit), place := state.place + 36 }

end State

/-- The characters before the last hyphen, and those after it. -/
def splitBasic (cs : List Char) : List Char × List Char :=
  let digits := (cs.reverse.takeWhile (· ≠ '-')).reverse
  (cs.take (cs.length - digits.length - 1), digits)

/-- The label that a written form stands for, if every number in it is finished. -/
def decode? (cs : List Char) : Option (List Char) := do
  let (basic, digits) := splitBasic cs
  let state ← digits.foldlM State.step? ({ decoded := basic } : State)
  if state.place = 36 then some state.decoded else none

end TypedClient.Punycode
