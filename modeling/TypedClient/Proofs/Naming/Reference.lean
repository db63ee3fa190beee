/-
# Names behind pointers

A pointer writes the key of a definition as its last segment, with escapes for tildes and slashes.
Whoever follows the pointer undoes the escapes and finds the definition. The name of a reference is
made of the segment as it is written. A declared name keeps the letters and digits of what it is
made of, and every escape brings in a digit, so that the two names are the same exactly if the key
needs no escapes.
-/

import TypedClient.Document.Pointer
import TypedClient.Naming.Identifier
import TypedClient.Proofs.Text.Lines

namespace TypedClient

namespace Json

/-! ## Keys in pointers -/

/-- A character of a key as it stands in a pointer. -/
def escapeKeyChar (c : Char) : List Char :=
  if c = '~' then ['~', '0'] else if c = '/' then ['~', '1'] else [c]

/-- A key as a segment of a pointer. -/
def escapeKey (key : String) : String :=
  String.ofList (key.toList.flatMap escapeKeyChar)

/-- A character other than tildes and slashes stands for itself. -/
theorem escapeKeyChar_cases (c : Char) :
    c = '~' ∨ c = '/' ∨ c ≠ '~' ∧ c ≠ '/' ∧ escapeKeyChar c = [c] := by
  by_cases tilde : c = '~'
  · exact Or.inl tilde
  · by_cases slash : c = '/'
    · exact Or.inr (Or.inl slash)
    · exact Or.inr (Or.inr ⟨tilde, slash, by rw [escapeKeyChar, if_neg tilde, if_neg slash]⟩)

theorem unescapeKey_cons {c : Char} (notTilde : c ≠ '~') (rest : List Char) :
    unescapeKey (c :: rest) = c :: unescapeKey rest := by
  simp [unescapeKey, notTilde]

/-- Undoing the escapes of a segment gives its key back. -/
theorem unescapeKey_flatMap (cs : List Char) :
    unescapeKey (cs.flatMap escapeKeyChar) = cs := by
  induction cs with
  | nil => rfl
  | cons c rest ih =>
      rw [List.flatMap_cons]
      rcases escapeKeyChar_cases c with rfl | rfl | ⟨notTilde, -, itself⟩
      · exact congrArg ('~' :: ·) ih
      · exact congrArg ('/' :: ·) ih
      · rw [itself, List.singleton_append, unescapeKey_cons notTilde, ih]

theorem slash_notMem_escapeKey (key : String) : '/' ∉ (escapeKey key).toList := by
  rw [escapeKey, String.toList_ofList, List.mem_flatMap]
  rintro ⟨c, -, inEscape⟩
  rcases escapeKeyChar_cases c with rfl | rfl | ⟨-, notSlash, itself⟩
  · exact absurd inEscape (by decide)
  · exact absurd inEscape (by decide)
  · rw [itself, List.mem_singleton] at inEscape
    exact notSlash inEscape.symm

/-- A key without tildes and slashes is its own segment. -/
theorem escapeKey_eq_self {key : String} (noTilde : '~' ∉ key.toList) (noSlash : '/' ∉ key.toList) :
    escapeKey key = key := by
  have same : ∀ c ∈ key.toList, escapeKeyChar c = [c] := by
    intro c member
    rcases escapeKeyChar_cases c with rfl | rfl | ⟨-, -, itself⟩
    · exact absurd member noTilde
    · exact absurd member noSlash
    · exact itself
  rw [escapeKey, List.flatMap_def, List.map_congr_left same, ← List.flatMap_def,
    List.flatMap_singleton', String.ofList_toList]

/-- In an object, the pointer to a key leads to what is under it. -/
theorem pointer?_escapeKey (members : List (String × Json)) (key : String) :
    (Json.object members).pointer? ("/" ++ escapeKey key) = members.lookup key := by
  have noSlash : ∀ c ∈ (escapeKey key).toList, (c == '/') = false := by
    intro c member
    rw [beq_eq_false_iff_ne]
    rintro rfl
    exact slash_notMem_escapeKey key member
  have segments : Text.splitOn (· == '/') ("/" ++ escapeKey key).toList =
      [[], (escapeKey key).toList] := by
    have slash : "/".toList = ['/'] := by decide
    rw [String.toList_append, slash, List.singleton_append, Text.splitOn, Text.splitFrom,
      if_pos (beq_self_eq_true '/'), Text.splitFrom_of_forall_not noSlash, List.reverse_nil,
      List.nil_append]
  rw [pointer?, segments]
  simp [escapeKey, unescapeKey_flatMap, child?]

end Json

namespace Naming

/-! ## Letters and digits of names -/

/-- The letters and digits of a text. -/
def letters (text : String) : List Char :=
  text.toList.filter Text.isAlphanumeric

theorem letters_append (first second : String) :
    letters (first ++ second) = letters first ++ letters second := by
  rw [letters, String.toList_append, List.filter_append]
  rfl

theorem filter_dropEndWhile {p q : Char → Bool} (apart : ∀ c, p c = true → q c = false)
    (cs : List Char) : (Text.dropEndWhile p cs).filter q = cs.filter q := by
  have ofDropWhile : ∀ cs : List Char, (cs.dropWhile p).filter q = cs.filter q := by
    intro cs
    induction cs with
    | nil => rfl
    | cons c rest ih =>
        by_cases dropped : p c = true
        · rw [List.dropWhile_cons_of_pos dropped, ih,
            List.filter_cons_of_neg (by simp [apart c dropped])]
        · rw [List.dropWhile_cons_of_neg dropped]
  rw [Text.dropEndWhile, List.filter_reverse, ofDropWhile, List.filter_reverse,
    List.reverse_reverse]

theorem isAlphanumeric_underscore : Text.isAlphanumeric '_' = false := by decide

theorem letters_underscore_append (name : String) : letters ("_" ++ name) = letters name := by
  rw [letters_append]
  rfl

/-- A mark in front of a name is no letter. -/
theorem letters_ite (condition : Bool) (name : String) :
    letters (if condition then "_" ++ name else name) = letters name := by
  cases condition
  · rfl
  · exact letters_underscore_append name

/-- Flattening a name keeps its letters and digits. -/
theorem letters_flatten (raw : String) : letters (flatten raw) = letters raw := by
  have replaced : ∀ cs : List Char,
      (cs.map fun c => if isNameChar c then c else '_').filter Text.isAlphanumeric =
        cs.filter Text.isAlphanumeric := by
    intro cs
    induction cs with
    | nil => rfl
    | cons c rest ih =>
        rw [List.map_cons, List.filter_cons, List.filter_cons, ih]
        by_cases kept : isNameChar c = true
        · rw [if_pos kept]
        · have noLetter : Text.isAlphanumeric c = false := by
            rw [isNameChar, Bool.or_eq_true, not_or] at kept
            exact Bool.eq_false_iff.mpr kept.1
          rw [if_neg kept, noLetter, isAlphanumeric_underscore]
          rfl
  have apart : ∀ c, (c == '_') = true → Text.isAlphanumeric c = false := by
    intro c isUnderscore
    rw [beq_iff_eq.mp isUnderscore, isAlphanumeric_underscore]
  rw [letters, flatten, String.toList_ofList, flattenList, filter_dropEndWhile apart, replaced]
  rfl

/-- Making a name legal keeps its letters and digits, if it has a character at all. -/
theorem letters_sanitize {name : String} (nonempty : name.isEmpty = false) :
    letters (sanitize name) = letters name := by
  unfold sanitize
  split
  · rename_i noChars
    rw [String.toList_eq_nil_iff] at noChars
    subst noChars
    cases nonempty
  · rename_i first rest _
    by_cases starts : isIdentifierStart first = true
    · rw [if_pos starts]
      exact letters_ite _ name
    · rw [if_neg starts]
      exact (letters_ite _ ("_" ++ name)).trans (letters_underscore_append name)

/-- The declared name of a definition keeps the letters and digits of the name in the document. -/
theorem letters_of_definitionName? {raw name : String} (isName : definitionName? raw = some name) :
    letters name = letters raw := by
  unfold definitionName? at isName
  simp only [Option.ite_none_left_eq_some, Option.some.injEq, Bool.not_eq_true] at isName
  obtain ⟨nonempty, rfl⟩ := isName
  rw [letters_ite, letters_sanitize nonempty, letters_flatten]

/-! ## Names of references -/

/-- The last segment of a pointer is what follows its last slash. -/
theorem lastSegment_append {segment : String} (noSlash : '/' ∉ segment.toList) (place : String) :
    lastSegment (place ++ "/" ++ segment) = segment := by
  have others : ∀ c ∈ segment.toList.reverse, (c != '/') = true := by
    intro c member
    rw [bne_iff_ne]
    rintro rfl
    exact noSlash (List.mem_reverse.mp member)
  have slash : ¬ ('/' != '/') = true := by decide
  rw [lastSegment, String.toList_append, String.toList_append, List.reverse_append,
    List.takeWhile_append_of_pos others, List.reverse_append]
  simp

theorem length_letters_escapeKeyChar (c : Char) :
    ((Json.escapeKeyChar c).filter Text.isAlphanumeric).length =
      ([c].filter Text.isAlphanumeric).length + [c].count '~' + [c].count '/' := by
  rcases Json.escapeKeyChar_cases c with rfl | rfl | ⟨notTilde, notSlash, itself⟩
  · decide
  · decide
  · rw [itself]
    simp [notTilde, notSlash]

/-- Every escape brings in a digit. -/
theorem length_letters_escapeKey (key : String) :
    (letters (Json.escapeKey key)).length =
      (letters key).length + key.toList.count '~' + key.toList.count '/' := by
  rw [letters, Json.escapeKey, String.toList_ofList, letters]
  induction key.toList with
  | nil => rfl
  | cons c rest ih =>
      have first := length_letters_escapeKeyChar c
      rw [List.flatMap_cons, ← List.singleton_append, List.filter_append, List.filter_append,
        List.length_append, List.length_append, List.count_append, List.count_append]
      omega

/-- A pointer to a definition has the declared name of the definition exactly if the pointer writes
its key without escapes. -/
theorem referenceName?_escapeKey_iff {raw name : String} (isName : definitionName? raw = some name)
    (place : String) : referenceName? (place ++ "/" ++ Json.escapeKey raw) = some name ↔
      '~' ∉ raw.toList ∧ '/' ∉ raw.toList := by
  rw [referenceName?, lastSegment_append (Json.slash_notMem_escapeKey raw)]
  constructor
  · intro same
    -- Both names keep their letters and digits, so the segment has no more of them than the key.
    have sameLetters :=
      (letters_of_definitionName? same).symm.trans (letters_of_definitionName? isName)
    have longer := length_letters_escapeKey raw
    rw [sameLetters] at longer
    exact ⟨List.count_eq_zero.mp (by omega), List.count_eq_zero.mp (by omega)⟩
  · rintro ⟨noTilde, noSlash⟩
    rw [Json.escapeKey_eq_self noTilde noSlash, isName]

end Naming

end TypedClient
