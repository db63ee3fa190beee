/-
# Words

Which whole numbers fit a machine word of a number of bits.
-/

namespace TypedClient.Number

/-- How many values a word has. -/
def wordValues (bits : Nat) : Nat := Nat.pow 2 bits

/-- Whether a number fits a word without a sign. -/
def fitsUnsigned (bits : Nat) (n : Int) : Bool := 0 ≤ n && n < wordValues bits

/-- Whether a number fits a word with a sign. -/
def fitsSigned (bits : Nat) (n : Int) : Bool :=
  -(wordValues (bits - 1) : Int) ≤ n && n < wordValues (bits - 1)

/-- Whether a number fits a word, with or without a sign. -/
def fitsWord (bits : Nat) (n : Int) : Bool := fitsSigned bits n || fitsUnsigned bits n

end TypedClient.Number
