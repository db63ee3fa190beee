/-
# String literals as scripts read them

The rules by which a script reads a double-quoted literal, stated apart from the
rules by which one is written. Modules are strict code, so octal escapes are
errors, and none of the four line terminators may stand in a literal unescaped.
An escape for half a surrogate pair names no character and is refused.

Main statement: a written literal is read as the text it was written for, and
reading stops at its closing quote.
-/

import Mathlib.Tactic.IntervalCases
import TypedClient.Naming.Quoting

namespace TypedClient.Script

/-! ## Reading -/

/-- The characters that end a line of a script. -/
def isLineTerminator (c : Char) : Bool :=
  c == '\n' || c == '\r' || c.toNat == 0x2028 || c.toNat == 0x2029

/-- The character of a code point, which a surrogate does not have. -/
def charOf? (code : Nat) : Option Char :=
  if code.isValidChar then some (Char.ofNat code) else none

/-- The number that hexadecimal digits write. -/
def hexNumber? (digits : List Char) : Option Nat :=
  digits.foldlM (fun value digit => (Text.hexValue? digit).map (value * 16 + ·)) 0

/-- The character that hexadecimal digits name, as the text of an escape. -/
def hexEscape? (digits : List Char) : Option (List Char) :=
  ((hexNumber? digits).bind charOf?).map ([·])

/-- What an escape stands for, read after its backslash, with the number of
characters it takes. A backslash in front of a line end continues the line. -/
def escape? : List Char → Option (List Char × Nat)
  | 'n' :: _ => some (['\n'], 1)
  | 'r' :: _ => some (['\r'], 1)
  | 't' :: _ => some (['\t'], 1)
  | 'b' :: _ => some (['\x08'], 1)
  | 'v' :: _ => some (['\x0b'], 1)
  | 'f' :: _ => some (['\x0c'], 1)
  | '0' :: rest => if rest.head?.any Char.isDigit then none else some (['\x00'], 1)
  | 'x' :: a :: b :: _ => (hexEscape? [a, b]).map (·, 3)
  | 'u' :: '{' :: rest =>
    let digits := rest.takeWhile (· != '}')
    if digits.isEmpty || digits.length == rest.length then none
    else (hexEscape? digits).map (·, digits.length + 3)
  | 'u' :: a :: b :: c :: d :: _ => (hexEscape? [a, b, c, d]).map (·, 5)
  | '\r' :: '\n' :: _ => some ([], 2)
  | c :: _ =>
    if isLineTerminator c then some ([], 1)
    else if c.isDigit || c == 'x' || c == 'u' then none
    else some ([c], 1)
  | [] => none

/-- Puts characters in front of the value read so far. -/
def prepend (value : List Char) (read : List Char × List Char) : List Char × List Char :=
  (value ++ read.1, read.2)

theorem map_prepend_nil (read : Option (List Char × List Char)) : read.map (prepend []) = read := by
  cases read <;> rfl

theorem map_prepend_prepend (first second : List Char) (read : Option (List Char × List Char)) :
    (read.map (prepend second)).map (prepend first) = read.map (prepend (first ++ second)) := by
  cases read <;> simp [prepend]

/-- The value of a double-quoted literal and the text after it, read after its
opening quote. The first `skip` characters belong to an escape. -/
def readStringFrom : (skip : Nat) → List Char → Option (List Char × List Char)
  | _, [] => none
  | skip + 1, _ :: rest => readStringFrom skip rest
  | 0, '"' :: rest => some ([], rest)
  | 0, '\\' :: rest =>
    match escape? rest with
    | some (value, length) => (readStringFrom length rest).map (prepend value)
    | none => none
  | 0, c :: rest =>
    if isLineTerminator c then none else (readStringFrom 0 rest).map (prepend [c])

/-- Reads a double-quoted literal at the start of a text. -/
def readString : List Char → Option (List Char × List Char)
  | '"' :: rest => readStringFrom 0 rest
  | _ => none

/-! ## Hexadecimal digits -/

theorem hexValue?_digitChar {digit : Nat} (bound : digit < 16) :
    Text.hexValue? (Nat.digitChar digit) = some digit := by
  interval_cases digit <;> decide

theorem digitChar_ne_brace {digit : Nat} (bound : digit < 16) : Nat.digitChar digit ≠ '{' := by
  interval_cases digit <;> decide

theorem length_hexDigits (width value : Nat) : (Text.hexDigits width value).length = width := by
  induction width generalizing value with
  | zero => rfl
  | succ width ih => rw [Text.hexDigits, List.length_append, ih, List.length_singleton]

/-- As many digits as a number needs write the number. -/
theorem hexNumber?_hexDigits {width value : Nat} (bound : value < Nat.pow 16 width) :
    hexNumber? (Text.hexDigits width value) = some value := by
  induction width generalizing value with
  | zero =>
      obtain rfl : value = 0 := Nat.lt_one_iff.mp bound
      rfl
  | succ width ih =>
      have last : Text.hexValue? (Nat.digitChar (value % 16)) = some (value % 16) :=
        hexValue?_digitChar (Nat.mod_lt _ (by decide))
      have front := ih (Nat.div_lt_of_lt_mul (by rwa [Nat.mul_comm]))
      unfold hexNumber? at front ⊢
      rw [Text.hexDigits, List.foldlM_append, front]
      simp only [Option.bind_eq_bind, Option.bind_some, List.foldlM_cons, List.foldlM_nil, last,
        Option.map_some, Option.pure_def, Option.some.injEq]
      omega

/-- Four digits name every character of the first plane. -/
theorem hexEscape?_hexDigits {c : Char} (bound : c.toNat < 0x10000) :
    hexEscape? (Text.hexDigits 4 c.toNat) = some [c] := by
  have valid : c.toNat.isValidChar := c.valid
  unfold hexEscape?
  rw [hexNumber?_hexDigits bound]
  simp [charOf?, valid]

/-! ## Written literals -/

/-- The characters an escape takes are passed over. -/
theorem readStringFrom_append (taken rest : List Char) :
    readStringFrom taken.length (taken ++ rest) = readStringFrom 0 rest := by
  induction taken with
  | nil => rfl
  | cons c taken ih => rw [List.length_cons, List.cons_append, readStringFrom, ih]

/-- An escape is read as what it stands for. -/
theorem readStringFrom_escape {value rest : List Char} (taken : List Char)
    (escape : escape? (taken ++ rest) = some (value, taken.length)) :
    readStringFrom 0 ('\\' :: (taken ++ rest)) = (readStringFrom 0 rest).map (prepend value) := by
  rw [readStringFrom, escape]
  simp only [readStringFrom_append]

/-- Any other character but the quote and the backslash is read as itself. -/
theorem readStringFrom_cons {c : Char} (notQuote : c ≠ '"') (notBackslash : c ≠ '\\')
    (inLine : isLineTerminator c = false) (rest : List Char) :
    readStringFrom 0 (c :: rest) = (readStringFrom 0 rest).map (prepend [c]) := by
  rw [readStringFrom, inLine]
  · rfl
  · exact notQuote
  · exact notBackslash

/-- Characters that are written as an escape by their number. -/
theorem escape?_hexDigits {c : Char} (bound : c.toNat < 0x10000) (rest : List Char) :
    escape? ('u' :: (Text.hexDigits 4 c.toNat ++ rest)) = some ([c], 5) := by
  have named := hexEscape?_hexDigits bound
  simp only [Text.hexDigits, List.nil_append, List.cons_append] at named ⊢
  rw [escape?, named]
  · rfl
  · exact digitChar_ne_brace (Nat.mod_lt _ (by decide))

/-- Control characters lie in the first plane. -/
theorem toNat_lt_of_isControl {c : Char} (control : Text.isControl c) : c.toNat < 0x10000 := by
  unfold Text.isControl at control
  simp only [Bool.or_eq_true, Bool.and_eq_true, decide_eq_true_eq] at control
  omega

/-- A written character is read as itself, whatever follows it. -/
theorem readStringFrom_escapeChar (c : Char) (rest : List Char) :
    readStringFrom 0 (Naming.escapeChar c ++ rest) =
      (readStringFrom 0 rest).map (prepend [c]) := by
  unfold Naming.escapeChar
  split
  · exact readStringFrom_escape ['\\'] rfl
  · exact readStringFrom_escape ['"'] rfl
  · exact readStringFrom_escape ['n'] rfl
  · exact readStringFrom_escape ['r'] rfl
  · exact readStringFrom_escape ['t'] rfl
  · rename_i notBackslash notQuote notFeed notReturn notTab
    split
    · rename_i special
      have bound : c.toNat < 0x10000 := by
        simp only [Bool.or_eq_true, beq_iff_eq] at special
        rcases special with (control | separator) | separator
        · exact toNat_lt_of_isControl control
        · omega
        · omega
      refine readStringFrom_escape ('u' :: Text.hexDigits 4 c.toNat) ?_
      rw [List.length_cons, length_hexDigits]
      exact escape?_hexDigits bound rest
    · rename_i plain
      simp only [Bool.or_eq_true, beq_iff_eq, not_or] at plain
      refine readStringFrom_cons notQuote notBackslash ?_ rest
      unfold isLineTerminator
      simp only [Bool.or_eq_false_iff, beq_eq_false_iff_ne]
      exact ⟨⟨⟨notFeed, notReturn⟩, plain.1.2⟩, plain.2⟩

/-- A written text is read up to where it ends. -/
theorem readStringFrom_escapeLiteral (text rest : List Char) :
    readStringFrom 0 (text.flatMap Naming.escapeChar ++ rest) =
      (readStringFrom 0 rest).map (prepend text) := by
  induction text with
  | nil => exact (map_prepend_nil _).symm
  | cons c text ih =>
      rw [List.flatMap_cons, List.append_assoc, readStringFrom_escapeChar, ih,
        map_prepend_prepend, List.singleton_append]

/-- A written literal is read as its text, and nothing after it is touched. -/
theorem readString_quoteLiteral (s : String) (rest : List Char) :
    readString ((Naming.quoteLiteral s).toList ++ rest) = some (s.toList, rest) := by
  have written : (Naming.quoteLiteral s).toList ++ rest =
      '"' :: (s.toList.flatMap Naming.escapeChar ++ '"' :: rest) := by
    simp [Naming.quoteLiteral, Naming.escapeLiteral]
  have closing : readStringFrom 0 ('"' :: rest) = some ([], rest) := rfl
  rw [written, readString, readStringFrom_escapeLiteral, closing]
  simp [prepend]

end TypedClient.Script
