/-
# Declared names are identifiers

A name that is made legal starts like an identifier, goes on like one, and is no
reserved word. Declared definition names are made this way, and the mark that
keeps them off the predefined types leaves them legal.
-/

import Mathlib.Data.List.DropRight
import TypedClient.Naming.Identifier
import TypedClient.Naming.Quoting

namespace TypedClient.Naming

/-- A text with the shape of an identifier, reserved or not. -/
structure IsName (name : String) : Prop where
  start : ∃ first rest, name.toList = first :: rest ∧ isIdentifierStart first = true
  part : ∀ c ∈ name.toList, isIdentifierPart c = true

/-- Whatever may start an identifier may also go on with one. -/
theorem isIdentifierPart_of_isIdentifierStart {c : Char} (start : isIdentifierStart c) :
    isIdentifierPart c := by
  unfold isIdentifierStart at start
  unfold isIdentifierPart Text.isAlphanumeric
  simp only [Bool.or_eq_true] at start ⊢
  tauto

/-- The code points of white space. -/
def whiteSpaceCodes : List Nat :=
  [0x09, 0x0a, 0x0b, 0x0c, 0x0d, 0x20, 0x85, 0xa0, 0x1680, 0x2000, 0x2001, 0x2002, 0x2003,
    0x2004, 0x2005, 0x2006, 0x2007, 0x2008, 0x2009, 0x200a, 0x2028, 0x2029, 0x202f, 0x205f, 0x3000]

theorem toNat_mem_whiteSpaceCodes {c : Char} (white : Text.isWhiteSpace c = true) :
    c.toNat ∈ whiteSpaceCodes := by
  unfold Text.isWhiteSpace at white
  split at white
  · simp only [Bool.or_eq_true, Bool.and_eq_true, beq_iff_eq, decide_eq_true_eq] at white
    rcases white with rfl | bounds
    · decide
    · simp only [whiteSpaceCodes, List.mem_cons]
      omega
  · simp only [Text.CodeRun.anyContains, Text.whiteSpaceRuns, Text.CodeRun.contains, List.any_cons,
      List.any_nil, Bool.or_eq_true, Bool.and_eq_true, decide_eq_true_eq, Bool.or_false] at white
    simp only [whiteSpaceCodes, List.mem_cons]
    omega

/-- White space is no part of an identifier. -/
theorem isWhiteSpace_of_isIdentifierPart {c : Char} (part : isIdentifierPart c = true) :
    Text.isWhiteSpace c = false := by
  have codes : ∀ code ∈ whiteSpaceCodes, isIdentifierPart (Char.ofNat code) = false := by
    decide +kernel
  by_contra white
  have known := codes c.toNat (toNat_mem_whiteSpaceCodes (Bool.of_not_eq_false white))
  rw [Char.ofNat_toNat, part] at known
  cases known

theorem isValidIdentifier_iff {name : String} :
    isValidIdentifier name = true ↔ IsName name ∧ reservedWords.contains name = false := by
  constructor
  · intro valid
    unfold isValidIdentifier at valid
    split at valid
    · cases valid
    · rename_i first rest shape
      simp only [Bool.and_eq_true, List.all_eq_true, Bool.not_eq_true'] at valid
      obtain ⟨⟨start, parts⟩, free⟩ := valid
      refine ⟨⟨⟨first, rest, shape, start⟩, ?_⟩, free⟩
      rw [shape]
      exact List.forall_mem_cons.mpr ⟨isIdentifierPart_of_isIdentifierStart start, parts⟩
  · rintro ⟨⟨⟨first, rest, shape, start⟩, parts⟩, free⟩
    unfold isValidIdentifier
    rw [shape] at parts ⊢
    simp only [Bool.and_eq_true, List.all_eq_true, Bool.not_eq_true']
    exact ⟨⟨start, fun c member => parts c (List.mem_cons_of_mem first member)⟩, free⟩

theorem isName_of_isValidIdentifier {name : String} (valid : isValidIdentifier name) :
    IsName name :=
  (isValidIdentifier_iff.mp valid).1

/-- A fixed name, by its characters. -/
theorem isName_of_all {name : String} {first : Char} {rest : List Char}
    (shape : name.toList = first :: rest) (start : isIdentifierStart first = true)
    (part : name.toList.all isIdentifierPart = true) : IsName name :=
  ⟨⟨first, rest, shape, start⟩, List.all_eq_true.mp part⟩

/-! ## Plain property keys -/

theorem isAscii_of_isAsciiAlphanumeric {c : Char} (plain : Text.isAsciiAlphanumeric c) :
    Text.isAscii c = true := by
  have ranges : Text.isAsciiAlphanumeric c = (decide ('A'.val ≤ c.val ∧ c.val ≤ 'Z'.val) ||
      'a'.val ≤ c.val && c.val ≤ 'z'.val || '0'.val ≤ c.val && c.val ≤ '9'.val) := rfl
  simp only [ranges, Bool.or_eq_true, Bool.and_eq_true, decide_eq_true_eq,
    UInt32.le_iff_toNat_le] at plain
  have bounds : c.toNat = c.val.toNat := rfl
  simp only [Text.isAscii, decide_eq_true_eq, bounds]
  rcases plain with ((⟨-, upper⟩ | ⟨-, upper⟩) | ⟨-, upper⟩)
  · exact upper.trans_lt (by decide)
  · exact upper.trans_lt (by decide)
  · exact upper.trans_lt (by decide)

theorem isIdentifierStart_of_isKeyStart {c : Char} (start : isKeyStart c) :
    isIdentifierStart c = true := by
  unfold isKeyStart at start
  unfold isIdentifierStart
  simp only [Bool.or_eq_true] at start ⊢
  rcases start with (letter | underscore) | dollar
  · have plain : Text.isAsciiAlphanumeric c := by simp [Text.isAsciiAlphanumeric, letter]
    have ascii := isAscii_of_isAsciiAlphanumeric plain
    exact Or.inl (Or.inl (by rw [Text.isAlphabetic, if_pos ascii, letter]))
  · exact Or.inl (Or.inr underscore)
  · exact Or.inr dollar

theorem isIdentifierPart_of_isKeyPart {c : Char} (part : isKeyPart c) :
    isIdentifierPart c = true := by
  unfold isKeyPart at part
  unfold isIdentifierPart
  simp only [Bool.or_eq_true] at part ⊢
  rcases part with (plain | underscore) | dollar
  · have ascii := isAscii_of_isAsciiAlphanumeric plain
    refine Or.inl (Or.inl ?_)
    rw [Text.isAlphanumeric, Text.isAlphabetic, Text.isNumeric, if_pos ascii, if_pos ascii]
    exact plain
  · exact Or.inl (Or.inr underscore)
  · exact Or.inr dollar

theorem all_isKeyPart_of_needsQuotes_eq_false {key : String} (plain : needsQuotes key = false) :
    key.toList.all isKeyPart = true := by
  unfold needsQuotes at plain
  split at plain
  · cases plain
  · rename_i first others shape
    rw [shape]
    simp only [Bool.not_eq_false', Bool.and_eq_true] at plain
    exact plain.2

/-- A key that needs no quotes has the shape of an identifier. -/
theorem isName_of_needsQuotes_eq_false {key : String} (plain : needsQuotes key = false) :
    IsName key := by
  unfold needsQuotes at plain
  split at plain
  · cases plain
  · rename_i first rest shape
    simp only [Bool.not_eq_false', Bool.and_eq_true, List.all_eq_true] at plain
    refine ⟨⟨first, rest, shape, isIdentifierStart_of_isKeyStart plain.1⟩, ?_⟩
    rw [shape]
    exact fun c member => isIdentifierPart_of_isKeyPart (plain.2 c member)

/-! ## Marks in front of a name -/

/-- No reserved word starts with an underscore. -/
theorem not_reserved_of_underscore (name : String) :
    reservedWords.contains ("_" ++ name) = false := by
  have starts : ∀ word ∈ reservedWords, word.toList.head? ≠ some '_' := by decide
  rw [List.contains_eq_mem, decide_eq_false_iff_not]
  intro member
  exact starts _ member (by simp)

theorem isName_underscore_append {name : String}
    (parts : ∀ c ∈ name.toList, isIdentifierPart c = true) : IsName ("_" ++ name) := by
  refine ⟨⟨'_', name.toList, by simp, by decide⟩, ?_⟩
  simpa using ⟨by decide, parts⟩

/-- A name of identifier characters is made legal by an underscore in front of it. -/
theorem isValidIdentifier_underscore_append {name : String}
    (parts : ∀ c ∈ name.toList, isIdentifierPart c = true) :
    isValidIdentifier ("_" ++ name) = true :=
  isValidIdentifier_iff.mpr ⟨isName_underscore_append parts, not_reserved_of_underscore name⟩

/-- Identifier characters are made legal, whatever they start with. -/
theorem isValidIdentifier_sanitize {name : String}
    (parts : ∀ c ∈ name.toList, isIdentifierPart c = true) :
    isValidIdentifier (sanitize name) = true := by
  unfold sanitize
  split
  · decide
  · rename_i first rest shape
    by_cases start : isIdentifierStart first
    · simp only [start, if_true]
      split
      · exact isValidIdentifier_underscore_append parts
      · rename_i free
        exact isValidIdentifier_iff.mpr
          ⟨⟨⟨first, rest, shape, start⟩, parts⟩, by simpa using free⟩
    · simp only [start, Bool.false_eq_true, if_false, not_reserved_of_underscore]
      exact isValidIdentifier_underscore_append parts

/-! ## Definition names -/

theorem isIdentifierPart_of_isNameChar {c : Char} (allowed : isNameChar c = true) :
    isIdentifierPart c = true := by
  unfold isNameChar at allowed
  unfold isIdentifierPart
  rw [allowed, Bool.true_or]

theorem isNameChar_of_mem_flattenList {cs : List Char} {c : Char} (member : c ∈ flattenList cs) :
    isNameChar c = true := by
  unfold flattenList at member
  have inMapped := (List.rdropWhile_prefix (· == '_') _).subset member
  obtain ⟨d, -, rfl⟩ := List.mem_map.mp inMapped
  split
  · assumption
  · decide

/-- A flattened name has identifier characters only. -/
theorem isIdentifierPart_of_mem_flatten {raw : String} {c : Char}
    (member : c ∈ (flatten raw).toList) : isIdentifierPart c = true := by
  rw [flatten, String.toList_ofList] at member
  exact isIdentifierPart_of_isNameChar (isNameChar_of_mem_flattenList member)

/-- The name a definition is declared under is an identifier. -/
theorem isValidIdentifier_of_definitionName? {raw name : String}
    (declared : definitionName? raw = some name) : isValidIdentifier name = true := by
  have parts : ∀ c ∈ (flatten raw).toList, isIdentifierPart c = true := fun _ =>
    isIdentifierPart_of_mem_flatten
  have legal := isValidIdentifier_sanitize parts
  unfold definitionName? at declared
  simp only [Option.ite_none_left_eq_some, Option.some.injEq] at declared
  obtain ⟨-, rfl⟩ := declared
  split
  · exact isValidIdentifier_underscore_append (isName_of_isValidIdentifier legal).part
  · exact legal

end TypedClient.Naming
