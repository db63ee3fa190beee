/-
# Names and JSON values are pieces

Identifiers, property keys and property reads are pieces of code, and so is the compact
text of a JSON value: its strings escape what would end them, its numbers have no
signs that mean anything, and its brackets fit.
-/

import TypedClient.Json.Printer
import TypedClient.Proofs.Layout.Piece
import TypedClient.Proofs.Naming.Identifier

namespace TypedClient.Layout

/-! ## Names -/

/-- The characters of a class are plain if the signs of scanning are not in it. -/
theorem isPlainChar_of_class (p : Char → Bool)
    (signs : ['\n', '/', '"', '\'', '\x60', '(', '[', '{', ')', ']', '}'].any p = false)
    {c : Char} (inClass : p c = true) : Piece.isPlainChar c = true := by
  rw [Piece.isPlainChar, Bool.not_eq_true', List.contains_eq_mem, decide_eq_false_iff_not]
  intro member
  exact List.any_eq_false.mp signs c member inClass

theorem piece_of_isName {name : String} (isName : Naming.IsName name) : Piece name.toList [] := by
  refine Piece.plain (List.all_eq_true.mpr fun c member => ?_)
  exact isPlainChar_of_class Naming.isIdentifierPart (by decide) (isName.part c member)

theorem piece_propertyKey (key : String) : Piece (Naming.propertyKey key).toList [] := by
  unfold Naming.propertyKey
  split
  · exact piece_quoteLiteral key
  · rename_i plain
    exact piece_of_isName (Naming.isName_of_needsQuotes_eq_false (by simpa using plain))

theorem piece_propertyAccess {object : String} (piece : Piece object.toList []) (key : String) :
    Piece (Naming.propertyAccess object key).toList [] := by
  unfold Naming.propertyAccess
  split
  · have read := (piece_quoteLiteral key).enclosed (c := '[') rfl rfl
    simpa using piece.append_closed read
  · rename_i plain
    have name := piece_of_isName (Naming.isName_of_needsQuotes_eq_false (by simpa using plain))
    have dot : Piece ['.'] [] := Piece.plain rfl
    simpa using piece.append_closed (dot.append_closed name)

/-- Texts between plain signs. -/
theorem piece_intercalate {separator : String} {texts : List String}
    (signs : separator.toList.all Piece.isPlainChar = true)
    (each : ∀ text ∈ texts, Piece text.toList []) :
    Piece (separator.intercalate texts).toList [] := by
  rw [String.toList_intercalate]
  apply Piece.intercalate (Piece.plain signs)
  intro item member
  obtain ⟨text, isText, rfl⟩ := List.mem_map.mp member
  exact each text isText

/-! ## Numbers -/

/-- The characters that numbers are written with. -/
def isNumberChar (c : Char) : Bool :=
  c.isDigit || ['.', '-', '+', 'e'].contains c

theorem piece_of_isNumberChar {text : List Char} (numeric : ∀ c ∈ text, isNumberChar c = true) :
    Piece text [] := by
  refine Piece.plain (List.all_eq_true.mpr fun c member => ?_)
  exact isPlainChar_of_class isNumberChar (by decide) (numeric c member)

theorem isNumberChar_of_mem_toDigits {n : Nat} {c : Char} (member : c ∈ Nat.toDigits 10 n) :
    isNumberChar c = true := by
  rw [isNumberChar, Nat.isDigit_of_mem_toDigits (by decide) (by decide) member, Bool.true_or]

theorem isNumberChar_of_mem_toString {value : Int} {c : Char}
    (member : c ∈ (toString value).toList) : isNumberChar c = true := by
  cases value with
  | ofNat n =>
      have digits : (toString (Int.ofNat n)).toList = Nat.toDigits 10 n := String.toList_ofList
      rw [digits] at member
      exact isNumberChar_of_mem_toDigits member
  | negSucc n =>
      have digits : (toString (Int.negSucc n)).toList = '-' :: Nat.toDigits 10 (n + 1) := by
        rw [← String.toList_ofList (l := Nat.toDigits 10 (n + 1))]
        exact String.toList_append
      rw [digits] at member
      rcases List.mem_cons.mp member with rfl | inDigits
      · decide
      · exact isNumberChar_of_mem_toDigits inDigits

/-- Digits with a point among them or zeros around them. -/
theorem isNumberChar_of_mem_positional {digits : List Char} {point : Int} {c : Char}
    (numeric : ∀ d ∈ digits, isNumberChar d = true)
    (member : c ∈ Number.DoubleLayout.positional digits point) : isNumberChar c = true := by
  have zero : isNumberChar '0' = true := by decide
  have dot : isNumberChar '.' = true := by decide
  unfold Number.DoubleLayout.positional at member
  split at member
  · simp only [List.cons_append, List.mem_cons, List.mem_append, List.mem_replicate] at member
    rcases member with rfl | rfl | ⟨-, rfl⟩ | inDigits
    · exact zero
    · exact dot
    · exact zero
    · exact numeric c inDigits
  · split at member
    · simp only [List.mem_append, List.mem_cons] at member
      rcases member with before | rfl | after
      · exact numeric c (List.mem_of_mem_take before)
      · exact dot
      · exact numeric c (List.mem_of_mem_drop after)
    · simp only [List.mem_append, List.mem_cons, List.mem_replicate, List.not_mem_nil,
        or_false] at member
      rcases member with (inDigits | ⟨-, rfl⟩) | rfl | rfl
      · exact numeric c inDigits
      · exact zero
      · exact dot
      · exact zero

/-- Digits with a point after the first of them, and an exponent. -/
theorem isNumberChar_of_mem_scientific {layout : Number.DoubleLayout} {digits : List Char}
    {point : Int} {c : Char} (numeric : ∀ d ∈ digits, isNumberChar d = true)
    (member : c ∈ layout.scientific digits point) : isNumberChar c = true := by
  have dot : isNumberChar '.' = true := by decide
  unfold Number.DoubleLayout.scientific at member
  simp only [List.append_assoc, List.cons_append, List.mem_append, List.mem_cons] at member
  rcases member with inMantissa | rfl | inSign | inExponent
  · split at inMantissa
    · simp only [List.mem_cons] at inMantissa
      rcases inMantissa with rfl | rfl | inRest
      · exact numeric _ List.mem_cons_self
      · exact dot
      · exact numeric c (List.mem_cons_of_mem _ (List.mem_cons.mpr inRest))
    · exact numeric c inMantissa
  · decide
  · have sign : c = '-' ∨ c = '+' := by
      split at inSign
      · exact Or.inl (List.mem_singleton.mp inSign)
      · split at inSign
        · exact Or.inr (List.mem_singleton.mp inSign)
        · cases inSign
    rcases sign with rfl | rfl <;> decide
  · exact isNumberChar_of_mem_toDigits inExponent

theorem isNumberChar_of_mem_text {layout : Number.DoubleLayout} {x : Double} {c : Char}
    (member : c ∈ (layout.text x).toList) : isNumberChar c = true := by
  have unsigned : ∀ {d : Char}, d ∈ (if x.units = 0 then ['0', '.', '0'] else
      let decimal := Number.shortest x.units
      let digits := Nat.toDigits 10 decimal.digits
      let point := decimal.exponent + digits.length
      if layout.leastPoint ≤ point && point ≤ layout.greatestPoint then
        Number.DoubleLayout.positional digits point
      else layout.scientific digits point) → isNumberChar d = true := by
    intro d inBody
    split at inBody
    · have zero : ['0', '.', '0'].all isNumberChar = true := by decide
      exact List.all_eq_true.mp zero d inBody
    · simp only at inBody
      split at inBody
      · exact isNumberChar_of_mem_positional (fun _ => isNumberChar_of_mem_toDigits) inBody
      · exact isNumberChar_of_mem_scientific (fun _ => isNumberChar_of_mem_toDigits) inBody
  rw [Number.DoubleLayout.text, String.toList_ofList] at member
  simp only at member
  split at member
  · rcases List.mem_cons.mp member with rfl | inBody
    · decide
    · exact unsigned inBody
  · exact unsigned member

theorem piece_numberText (n : JsonNumber) : Piece (Json.numberText n).toList [] := by
  cases n with
  | whole value => exact piece_of_isNumberChar fun _ => isNumberChar_of_mem_toString
  | double value => exact piece_of_isNumberChar fun _ => isNumberChar_of_mem_text

/-! ## Values -/

theorem stringBody_jsonEscapeChar (c : Char) : StringBody (Json.escapeChar c) := by
  unfold Json.escapeChar
  split
  · exact .escape (by decide)
  · exact .escape (by decide)
  · exact .escape (by decide)
  · exact .escape (by decide)
  · exact .escape (by decide)
  · exact .escape (by decide)
  · exact .escape (by decide)
  · rename_i notQuote notBackslash notFeed notReturn notTab notBack notForm
    split
    · exact (StringBody.escape (c := 'u') (by decide)).append (.hexDigits 4 c.toNat)
    · exact .ofChar notQuote notBackslash notFeed

theorem piece_quote (s : String) : Piece (Json.quote s).toList [] := by
  have body : StringBody (s.toList.flatMap Json.escapeChar) :=
    .flatMap fun c _ => stringBody_jsonEscapeChar c
  simpa [Json.quote] using body.quoted

/-- Texts between commas inside brackets. -/
theorem piece_commas (opening : Char) {closing : Char} {delimiter : Delimiter}
    {texts : List String} (each : ∀ text ∈ texts, Piece text.toList [])
    (opens : Delimiter.opened? opening = some delimiter)
    (closes : delimiter.closer? = some closing) :
    Piece (opening :: ((",".intercalate texts).toList ++ [closing])) [] :=
  (piece_intercalate (by decide) each).enclosed opens closes

mutual

/-- The compact text of a value is a piece. -/
theorem piece_compact : (value : Json) → Piece value.compact.toList []
  | .null => Piece.plain rfl
  | .bool true => Piece.plain rfl
  | .bool false => Piece.plain rfl
  | .number n => piece_numberText n
  | .string s => piece_quote s
  | .array items => by
    rw [Json.compact]
    simpa using piece_commas '[' (piece_compactItems items) rfl rfl
  | .object members => by
    rw [Json.compact]
    simpa using piece_commas '{' (piece_compactMembers members) rfl rfl

theorem piece_compactItems : (items : List Json) →
    ∀ text ∈ Json.compactItems items, Piece text.toList []
  | [] => by simp [Json.compactItems]
  | item :: rest => by
    rw [Json.compactItems]
    exact List.forall_mem_cons.mpr ⟨piece_compact item, piece_compactItems rest⟩

theorem piece_compactMembers : (members : List (String × Json)) →
    ∀ text ∈ Json.compactMembers members, Piece text.toList []
  | [] => by simp [Json.compactMembers]
  | (key, value) :: rest => by
    have colon : Piece [':'] [] := Piece.plain rfl
    have member := (piece_quote key).append_closed (colon.append_closed (piece_compact value))
    rw [Json.compactMembers]
    exact List.forall_mem_cons.mpr ⟨by simpa using member, piece_compactMembers rest⟩

end

end TypedClient.Layout
