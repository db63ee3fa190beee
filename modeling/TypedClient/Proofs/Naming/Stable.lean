/-
# Declared names are stable

A definition is declared under a name if its raw name has a letter or a digit. The raw name is
rewritten in steps: it is flattened, made legal, and kept off the predefined types. Each step leaves
what an earlier one has established, so a declared name is its own declared name, and every pointer
that ends in it refers to it.
-/

import TypedClient.Proofs.Naming.Identifier
import TypedClient.Proofs.Naming.Reference

namespace TypedClient.Naming

variable {name raw pointer segment : String}

/-! ## Flat names -/

/-- A text that flattening leaves alone: it has nothing to replace, and no underscore to drop. -/
structure IsFlat (name : String) : Prop where
  chars : ∀ c ∈ name.toList, isNameChar c = true
  last : name.toList.getLast? ≠ some '_'

theorem isFlat_flatten (raw : String) : IsFlat (flatten raw) := by
  constructor
  · intro c member
    rw [flatten, String.toList_ofList] at member
    exact isNameChar_of_mem_flattenList member
  · intro ends
    rw [flatten, String.toList_ofList, flattenList, Text.dropEndWhile,
      List.getLast?_reverse] at ends
    have kept := List.head?_dropWhile_not (· == '_')
      (raw.toList.map fun c => if isNameChar c then c else '_').reverse
    rw [ends] at kept
    exact absurd kept (by decide)

theorem IsFlat.flatten_eq (flat : IsFlat name) : flatten name = name := by
  have kept : (name.toList.map fun c => if isNameChar c then c else '_') = name.toList := by
    rw [List.map_congr_left fun c member => if_pos (flat.chars c member), List.map_id']
  have whole : Text.dropEndWhile (· == '_') name.toList = name.toList := by
    refine List.rdropWhile_eq_self_iff.mpr fun nonempty isLast => flat.last ?_
    rw [List.getLast?_eq_some_getLast nonempty, beq_iff_eq.mp isLast]
  rw [flatten, flattenList, kept, whole, String.ofList_toList]

theorem IsFlat.underscore_append (flat : IsFlat name) (nonempty : name ≠ "") :
    IsFlat ("_" ++ name) := by
  constructor
  · rw [String.toList_append, List.forall_mem_append]
    have marks : "_".toList.all isNameChar = true := by decide
    exact ⟨List.all_eq_true.mp marks, flat.chars⟩
  · have hasChars : name.toList ≠ [] := mt String.toList_eq_nil_iff.mp nonempty
    rw [String.toList_append, List.getLast?_append_of_ne_nil _ hasChars]
    exact flat.last

/-- Without letters and digits nothing is left. -/
theorem flatten_eq_empty_iff :
    flatten raw = "" ↔ ∀ c ∈ raw.toList, Text.isAlphanumeric c = false := by
  have noLetters : letters raw = [] ↔ ∀ c ∈ raw.toList, Text.isAlphanumeric c = false := by
    simp [letters]
  rw [← noLetters, ← letters_flatten]
  constructor
  · intro isEmpty
    rw [isEmpty]
    rfl
  · intro none
    by_contra nonempty
    -- The last character is a letter or a digit, since it is no underscore.
    have hasChars : (flatten raw).toList ≠ [] := mt String.toList_eq_nil_iff.mp nonempty
    have flat := isFlat_flatten raw
    have nameChar := flat.chars _ (List.getLast_mem hasChars)
    rw [isNameChar, Bool.or_eq_true, beq_iff_eq] at nameChar
    rcases nameChar with isLetter | isUnderscore
    · exact List.filter_eq_nil_iff.mp none _ (List.getLast_mem hasChars) isLetter
    · exact flat.last (by rw [List.getLast?_eq_some_getLast hasChars, isUnderscore])

/-! ## Legal names -/

/-- A legal name is left alone. -/
theorem sanitize_eq_self (valid : isValidIdentifier name = true) : sanitize name = name := by
  obtain ⟨⟨⟨first, rest, shape, start⟩, -⟩, free⟩ := isValidIdentifier_iff.mp valid
  unfold sanitize
  rw [shape]
  simp only [start, if_true, free, Bool.false_eq_true, if_false]

/-- Making a name legal puts at most one underscore in front. -/
theorem sanitize_cases (nonempty : name ≠ "") :
    sanitize name = name ∨ sanitize name = "_" ++ name := by
  unfold sanitize
  split
  · rename_i noChars
    exact absurd (String.toList_eq_nil_iff.mp noChars) nonempty
  · rename_i first rest _
    by_cases start : isIdentifierStart first = true
    · simp only [start, if_true]
      split
      · exact Or.inr rfl
      · exact Or.inl rfl
    · refine Or.inr ?_
      simp only [start, Bool.false_eq_true, if_false, not_reserved_of_underscore]

theorem IsFlat.sanitize (flat : IsFlat name) (nonempty : name ≠ "") : IsFlat (sanitize name) := by
  rcases sanitize_cases nonempty with same | marked
  · rwa [same]
  · rw [marked]
    exact flat.underscore_append nonempty

/-- No predefined type starts with an underscore. -/
theorem underscore_append_notMem_predefinedTypes (name : String) :
    "_" ++ name ∉ predefinedTypes := by
  have starts : ∀ type ∈ predefinedTypes, type.toList.head? ≠ some '_' := by decide
  exact fun member => starts _ member (by simp)

/-! ## Declared names -/

/-- Exactly the names without letters and digits are not declared. -/
theorem definitionName?_eq_none_iff :
    definitionName? raw = none ↔ ∀ c ∈ raw.toList, Text.isAlphanumeric c = false := by
  rw [← flatten_eq_empty_iff, definitionName?]
  simp [String.isEmpty_iff]

/-- A name that no step changes is its own declared name. -/
theorem definitionName?_eq_self (flat : IsFlat name) (valid : isValidIdentifier name = true)
    (open_ : name ∉ predefinedTypes) : definitionName? name = some name := by
  have nonempty : name ≠ "" := by
    rintro rfl
    exact absurd valid (by decide)
  simp [definitionName?, flat.flatten_eq, sanitize_eq_self valid, nonempty, open_]

/-- A declared name is flat and no predefined type. -/
theorem isFlat_of_definitionName? (declared : definitionName? raw = some name) :
    IsFlat name ∧ name ∉ predefinedTypes := by
  unfold definitionName? at declared
  simp only [Option.ite_none_left_eq_some, Option.some.injEq, String.isEmpty_iff] at declared
  obtain ⟨nonempty, rfl⟩ := declared
  have flat := (isFlat_flatten raw).sanitize nonempty
  have legal : isValidIdentifier (sanitize (flatten raw)) = true :=
    isValidIdentifier_sanitize fun _ => isIdentifierPart_of_mem_flatten
  split
  · refine ⟨flat.underscore_append ?_, underscore_append_notMem_predefinedTypes _⟩
    intro isEmpty
    rw [isEmpty] at legal
    exact absurd legal (by decide)
  · rename_i open_
    exact ⟨flat, by simpa using open_⟩

/-- A legal name that is neither marked nor predefined is declared for the raw names that flattening
turns into it, and for no others. -/
theorem definitionName?_eq_some_iff_flatten (valid : isValidIdentifier name = true)
    (open_ : name ∉ predefinedTypes) (unmarked : name.toList.head? ≠ some '_') :
    definitionName? raw = some name ↔ flatten raw = name := by
  have notMarked (other : String) : "_" ++ other ≠ name := by
    rintro rfl
    exact unmarked (by simp)
  constructor
  · intro declared
    unfold definitionName? at declared
    simp only [Option.ite_none_left_eq_some, Option.some.injEq, String.isEmpty_iff] at declared
    obtain ⟨nonempty, isName⟩ := declared
    split at isName
    · exact absurd isName (notMarked _)
    · rcases sanitize_cases nonempty with same | marked
      · exact same.symm.trans isName
      · exact absurd (marked.symm.trans isName) (notMarked _)
  · rintro rfl
    have nonempty : flatten raw ≠ "" := by
      intro isEmpty
      rw [isEmpty] at valid
      exact absurd valid (by decide)
    simp [definitionName?, sanitize_eq_self valid, nonempty, open_]

/-! ## Pointers -/

/-- The last segment of a pointer: the text after its last slash, or all of a text without one. -/
def IsLastSegment (segment pointer : String) : Prop :=
  '/' ∉ segment.toList ∧ (pointer = segment ∨ ∃ place, pointer = place ++ "/" ++ segment)

theorem IsLastSegment.lastSegment_eq (isLast : IsLastSegment segment pointer) :
    lastSegment pointer = segment := by
  obtain ⟨noSlash, rfl | ⟨place, rfl⟩⟩ := isLast
  · have others : ∀ c ∈ pointer.toList.reverse, (c != '/') = true := by
      intro c member
      rw [bne_iff_ne]
      rintro rfl
      exact noSlash (List.mem_reverse.mp member)
    rw [lastSegment, List.takeWhile_eq_self_iff.mpr others, List.reverse_reverse,
      String.ofList_toList]
  · exact lastSegment_append noSlash place

/-- Declared names are legal and stable. A definition has none exactly if its raw name has neither
letters nor digits. A declared name is an identifier and no predefined type; it is its own declared
name, and every pointer whose last segment it is refers to it. -/
theorem definitionName?_stable (raw : String) :
    (definitionName? raw = none ↔ ∀ c ∈ raw.toList, Text.isAlphanumeric c = false) ∧
    ∀ name, definitionName? raw = some name →
      isValidIdentifier name = true ∧ name ∉ predefinedTypes ∧
      definitionName? name = some name ∧
      ∀ pointer, IsLastSegment name pointer → referenceName? pointer = some name := by
  refine ⟨definitionName?_eq_none_iff, fun name declared => ?_⟩
  have valid := isValidIdentifier_of_definitionName? declared
  obtain ⟨flat, notPredefined⟩ := isFlat_of_definitionName? declared
  have stable := definitionName?_eq_self flat valid notPredefined
  refine ⟨valid, notPredefined, stable, fun pointer isLast => ?_⟩
  rw [referenceName?, isLast.lastSegment_eq, stable]

/-- A type argument list that is left empty makes a predefined type of a name, which gets a mark. -/
theorem definitionName?_stable_marked :
    definitionName? "«_»" = none ∧
    definitionName? "string<>" = some "_string" ∧
    isValidIdentifier "_string" = true ∧ "_string" ∉ predefinedTypes ∧
    definitionName? "_string" = some "_string" ∧
    referenceName? "#/definitions/_string" = some "_string" := by
  have declared : definitionName? "string<>" = some "_string" := by decide
  obtain ⟨valid, notPredefined, stable, refers⟩ :=
    (definitionName?_stable "string<>").2 "_string" declared
  have isLast : IsLastSegment "_string" "#/definitions/_string" :=
    ⟨by decide, Or.inr ⟨"#/definitions", rfl⟩⟩
  have noLetters : "«_»".toList.any Text.isAlphanumeric = false := by decide +kernel
  have undeclared : definitionName? "«_»" = none :=
    (definitionName?_stable "«_»").1.mpr fun c member =>
      eq_false_of_ne_true (List.any_eq_false.mp noLetters c member)
  exact ⟨undeclared, declared, valid, notPredefined, stable, refers _ isLast⟩

end TypedClient.Naming
