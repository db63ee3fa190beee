/-
# Letter case

Upper and lower case of characters and the lower case of a whole text. Some characters become
several, and a capital sigma becomes the final form exactly at the end of a word, so the lower case
of a text is not the concatenation of its characters' lower cases.
-/

import TypedClient.Text.CaseTable
import TypedClient.Text.CharClass

namespace TypedClient.Text

/-- A character under a case mapping: its expansion if it has one, else its shift, else itself. -/
def applyCase (expansions : List (Nat × List Nat)) (shifts : List CaseShift) (c : Char) :
    List Char :=
  match expansions.lookup c.toNat with
  | some codes => codes.map Char.ofNat
  | none =>
    match shifts.find? (·.run.contains c.toNat) with
    | some shift => [Char.ofNat ((c.toNat : Int) + shift.distance).toNat]
    | none => [c]

/-- The upper case of one character. -/
def upperOf (c : Char) : List Char :=
  if isAscii c then [c.toUpper] else applyCase upperExpansions upperShifts c

/-- The lower case of one character, without regard to its neighbours. -/
def lowerOf (c : Char) : List Char :=
  if isAscii c then [c.toLower] else applyCase lowerExpansions lowerShifts c

/-- The capital letter whose lower case depends on its place in the word. -/
def capitalSigma : Char := Char.ofNat 0x3a3

/-- The lower-case sigma that ends a word. -/
def finalSigma : Char := Char.ofNat 0x3c2

/-- The lower-case sigma inside a word. -/
def medialSigma : Char := Char.ofNat 0x3c3

/-- Whether a cased letter comes first, once the ignorable marks in front are skipped. -/
def startsCased (cs : List Char) : Bool :=
  match cs.dropWhile isCaseIgnorable with
  | c :: _ => isCased c
  | [] => false

/-- The lower case of a text, given the characters before it, last one first. -/
def lowercaseAfter : (before : List Char) → List Char → List Char
  | _, [] => []
  | before, c :: rest =>
    if c == capitalSigma then
      (if startsCased before && !startsCased rest then finalSigma else medialSigma)
        :: lowercaseAfter (c :: before) rest
    else lowerOf c ++ lowercaseAfter (c :: before) rest

/-- The lower case of a text. -/
def lowercase (cs : List Char) : List Char :=
  lowercaseAfter [] cs

/-- The lower case of a text in which only ASCII letters change. -/
def asciiLowercase (s : String) : String :=
  String.ofList (s.toList.map Char.toLower)

end TypedClient.Text
