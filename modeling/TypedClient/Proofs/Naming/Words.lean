/-
# Policies keep every letter

A name is cut into words at its separators and at its case boundaries, and a policy puts the words
together in a case of its own. Wherever the cuts fall, the words are the letters and digits of the
name, each once and in order. So the policies differ in case and in underscores alone: a name of
ASCII with a letter or a digit comes out of each of them with the same letters and digits.

What a policy may change is taken out on both sides by folding: a folded text has no underscores
and is in lower case.
-/

import TypedClient.Proofs.Naming.Marks

namespace TypedClient

namespace Naming

/-! ## Folded texts -/

/-- A text without its underscores and in lower case. -/
def folded (cs : List Char) : List Char :=
  (cs.filter (· != '_')).map Char.toLower

theorem folded_append (first second : List Char) :
    folded (first ++ second) = folded first ++ folded second := by
  rw [folded, List.filter_append, List.map_append]
  rfl

theorem toLower_eq_underscore_iff {c : Char} : c.toLower = '_' ↔ c = '_' := by
  constructor
  · intro same
    have noLetter : c.isAlpha = false := by
      rw [← Char.isAlpha_toLower_eq_isAlpha, same]
      decide
    have noCapital : ¬ c.isUpper = true := by
      rw [Char.isAlpha, Bool.or_eq_false_iff] at noLetter
      exact Bool.eq_false_iff.mp noLetter.1
    rwa [Char.toLower_eq_of_not_isUpper noCapital] at same
  · rintro rfl
    decide

/-- Texts that differ in case alone are the same when they are folded. -/
theorem folded_congr {cs other : List Char}
    (sameLower : cs.map Char.toLower = other.map Char.toLower) : folded cs = folded other := by
  have ofLower (cs : List Char) : folded cs = (cs.map Char.toLower).filter (· != '_') := by
    have kept : ((· != '_') ∘ Char.toLower) = (· != '_') := by
      funext c
      rw [Function.comp_apply, Bool.eq_iff_iff, bne_iff_ne, bne_iff_ne, Ne,
        toLower_eq_underscore_iff]
    rw [List.filter_map, kept, folded]
  rw [ofLower, ofLower, sameLower]

/-- Letters and digits are lowered and nothing else when they are folded. -/
theorem folded_letters (name : String) :
    folded (letters name) = (letters name).map Char.toLower := by
  have noUnderscore : (letters name).filter (· != '_') = letters name := by
    refine List.filter_eq_self.mpr fun c member => bne_iff_ne.mpr ?_
    rintro rfl
    exact absurd (List.mem_filter.mp member).2 (by decide)
  rw [folded, noUnderscore]

/-! ## Words that are put together -/

variable {words : List (List Char)} {spell : List Char → List Char}

/-- Words that are spelt one after the other, each as it likes, make up the same text folded. -/
theorem folded_flatMap (alike : ∀ word ∈ words, folded (spell word) = folded word) :
    folded (words.flatMap spell) = folded words.flatten := by
  induction words with
  | nil => rfl
  | cons word rest ih =>
    obtain ⟨first, others⟩ := List.forall_mem_cons.mp alike
    rw [List.flatMap_cons, List.flatten_cons, folded_append, folded_append, first, ih others]

/-- Underscores between words are not seen when the text is folded. -/
theorem folded_intercalate (words : List (List Char)) :
    folded (List.intercalate ['_'] words) = folded words.flatten := by
  induction words with
  | nil => rfl
  | cons word rest ih =>
    cases rest with
    | nil => simp
    | cons next rest =>
      have between : folded ['_'] = [] := rfl
      rw [List.intercalate_cons_cons, folded_append, folded_append, ih, between, List.append_nil,
        ← folded_append]
      rfl

section Ascii

variable {word : List Char} (ascii : ∀ c ∈ word, Text.isAscii c = true)
include ascii

theorem folded_lowercase : folded (Text.lowercase word) = folded word := by
  refine folded_congr ?_
  rw [Text.lowercase_of_isAscii ascii, List.map_map]
  exact List.map_congr_left fun c _ => c.toLower_toLower_eq_toLower

theorem folded_capitalize : folded (capitalize word) = folded word := by
  refine folded_congr ?_
  cases word with
  | nil => rfl
  | cons first rest =>
    obtain ⟨isFirst, others⟩ := List.forall_mem_cons.mp ascii
    have lowered : rest.flatMap Text.lowerOf = rest.map Char.toLower := by
      rw [← List.flatMap_singleton' (rest.map Char.toLower), List.flatMap_map]
      exact List.flatMap_congr fun c member => Text.lowerOf_of_isAscii (others c member)
    rw [capitalize, Text.upperOf_of_isAscii isFirst, lowered, List.singleton_append, List.map_cons,
      List.map_cons, Char.toLower_toUpper_eq_toLower, List.map_map]
    exact congrArg _ (List.map_congr_left fun c _ => c.toLower_toLower_eq_toLower)

end Ascii

/-- Flattening a name leaves underscores, letters and digits. -/
theorem folded_flattenList (name : String) :
    folded (flattenList name.toList) = folded (letters name) := by
  have kept : (flattenList name.toList).filter (· != '_') = letters name := by
    rw [← letters_flatten, letters, flatten, String.toList_ofList]
    refine List.filter_congr fun c member => ?_
    have nameChar := isNameChar_of_mem_flattenList member
    rw [isNameChar, Bool.or_eq_true, beq_iff_eq] at nameChar
    rcases nameChar with isLetter | rfl
    · rw [isLetter, bne_iff_ne]
      rintro rfl
      exact absurd isLetter (by decide)
    · decide
  rw [folded_letters, folded, kept]

/-- Each policy puts the words of an ASCII name together so that nothing but their case and the
underscores is changed. -/
theorem folded_joinWords {name : String} (ascii : ∀ c ∈ name.toList, Text.isAscii c = true)
    (policy : NamingPolicy) : folded (joinWords name policy) = folded (letters name) := by
  have asciiWords : ∀ word ∈ splitWords name, ∀ c ∈ word, Text.isAscii c = true := by
    intro word isWord c member
    have inLetters : c ∈ letters name := by
      rw [← flatten_splitWords]
      exact List.mem_flatten_of_mem isWord member
    exact ascii c (List.mem_filter.mp inLetters).1
  rw [← flatten_splitWords]
  cases policy with
  | preserve => rw [joinWords, folded_flattenList, flatten_splitWords]
  | snake =>
    rw [joinWords, folded_intercalate, ← List.flatMap_def]
    exact folded_flatMap fun word isWord => folded_lowercase (asciiWords word isWord)
  | pascal => exact folded_flatMap fun word isWord => folded_capitalize (asciiWords word isWord)
  | camel =>
    rw [joinWords]
    cases words : splitWords name with
    | nil => rfl
    | cons first rest =>
      rw [words] at asciiWords
      obtain ⟨isFirst, others⟩ := List.forall_mem_cons.mp asciiWords
      have lowered := folded_lowercase isFirst
      have capitalized := folded_flatMap fun word isWord => folded_capitalize (others word isWord)
      rw [folded_append, lowered, capitalized, List.flatten_cons, folded_append]

/-- The underscore that makes a name legal is not seen when the name is folded. -/
theorem folded_sanitize {name : String} (nonempty : name ≠ "") :
    folded (sanitize name).toList = folded name.toList := by
  rcases sanitize_cases nonempty with same | marked
  · rw [same]
  · rw [marked, String.toList_append, folded_append]
    rfl

/-- Naming policies keep every letter. The words of a name are not empty, and together they are its
letters and digits. Under every policy, a name of ASCII with a letter or a digit gives a name with
the same letters and digits in the same order, but for their case. -/
theorem applyPolicy_keepsLetters (name : String) :
    (∀ word ∈ splitWords name, word ≠ []) ∧
    (splitWords name).flatten = name.toList.filter Text.isAlphanumeric ∧
    ((∀ c ∈ name.toList, Text.isAscii c = true) →
      (∃ c ∈ name.toList, Text.isAlphanumeric c = true) →
      ∀ policy, folded (applyPolicy name policy).toList =
        (name.toList.filter Text.isAlphanumeric).map Char.toLower) := by
  refine ⟨fun _ => ne_nil_of_mem_splitWords, flatten_splitWords name, ?_⟩
  rintro ascii ⟨c, member, isLetter⟩ policy
  have joined : folded (joinWords name policy) = (letters name).map Char.toLower :=
    (folded_joinWords ascii policy).trans (folded_letters name)
  have nonempty : String.ofList (joinWords name policy) ≠ "" := by
    intro isEmpty
    rw [← String.ofList_nil, String.ofList_inj] at isEmpty
    rw [isEmpty] at joined
    have noLetters : letters name = [] := List.map_eq_nil_iff.mp joined.symm
    exact List.filter_eq_nil_iff.mp noLetters c member isLetter
  rw [applyPolicy, folded_sanitize nonempty, String.toList_ofList, joined, letters]

/-- Words are cut at separators, behind small letters and before the last of several capitals; a
digit in front needs a mark. -/
theorem applyPolicy_keepsLetters_mixed :
    "2fa-XMLHttp_idV2".toList.all Text.isAscii = true ∧
    (splitWords "2fa-XMLHttp_idV2").flatten = "2faXMLHttpidV2".toList ∧
    applyPolicy "2fa-XMLHttp_idV2" .snake = "_2fa_xml_http_id_v2" ∧
    folded (applyPolicy "2fa-XMLHttp_idV2" .snake).toList = "2faxmlhttpidv2".toList ∧
    folded (applyPolicy "2fa-XMLHttp_idV2" .camel).toList = "2faxmlhttpidv2".toList := by
  have plain : "2fa-XMLHttp_idV2".toList.all Text.isAscii = true := by decide
  have lettersOf : "2fa-XMLHttp_idV2".toList.filter Text.isAlphanumeric =
      "2faXMLHttpidV2".toList := by decide
  have lowered : "2faXMLHttpidV2".toList.map Char.toLower = "2faxmlhttpidv2".toList := by decide
  obtain ⟨-, words, keeps⟩ := applyPolicy_keepsLetters "2fa-XMLHttp_idV2"
  have kept := keeps (List.all_eq_true.mp plain) ⟨'2', by decide, by decide⟩
  rw [lettersOf, lowered] at kept
  exact ⟨plain, words.trans lettersOf, by decide, kept .snake, kept .camel⟩

end Naming

end TypedClient
