/-
# First letters of function names

A policy settles the case of the first letter: camel case and snake case start small, Pascal case
starts with a capital. Of the letters of ASCII this holds without exception, because the first word
of a name is never empty and no case mapping makes a letter vanish. So a policy rules out most names
that a function must not take, whatever the operation is called.
-/

import TypedClient.Naming.Operation
import TypedClient.Proofs.Text.Case

namespace TypedClient

namespace NamingPolicy

/-- Whether a name may start with a character; only the case of ASCII letters is settled. -/
def canStart : NamingPolicy → Char → Bool
  | .camel, c | .snake, c => !c.isUpper
  | .pascal, c => !c.isLower
  | .preserve, _ => true

/-- Whether a policy leaves it open that a function bears a name. -/
def admits (policy : NamingPolicy) (name : String) : Bool :=
  name.toList.head?.all policy.canStart

theorem canStart_underscore (policy : NamingPolicy) : policy.canStart '_' = true := by
  cases policy <;> decide

end NamingPolicy

namespace Naming

/-! ## Words -/

theorem ne_nil_of_mem_wordsOfChunk {current chunk word : List Char}
    (isWord : word ∈ wordsOfChunk current chunk) : word ≠ [] := by
  fun_induction wordsOfChunk current chunk with
  | case1 => cases isWord
  | case2 current nonempty =>
    rw [List.mem_singleton.mp isWord]
    exact fun isEmpty => nonempty (List.reverse_eq_nil_iff.mp isEmpty)
  | case3 c rest ih => exact ih isWord
  | case4 before current c rest starts ih =>
    rcases List.mem_cons.mp isWord with rfl | inRest
    · exact List.reverse_ne_nil_iff.mpr (List.cons_ne_nil _ _)
    · exact ih inRest
  | case5 before current c rest goesOn ih => exact ih isWord

theorem ne_nil_of_mem_splitWords {name : String} {word : List Char}
    (isWord : word ∈ splitWords name) : word ≠ [] := by
  obtain ⟨chunk, -, inChunk⟩ := List.mem_flatMap.mp isWord
  exact ne_nil_of_mem_wordsOfChunk inChunk

/-! ## First characters -/

/-- The first character of two texts is that of the one in front, unless this one is empty. -/
theorem forall_head?_append {P : Char → Prop} {front back : List Char} (nonempty : front ≠ [])
    (first : ∀ c ∈ front.head?, P c) : ∀ c ∈ (front ++ back).head?, P c := by
  obtain ⟨c, rest, rfl⟩ := List.exists_cons_of_ne_nil nonempty
  exact first

theorem isUpper_of_head?_lowercase {word back : List Char} (nonempty : word ≠ []) :
    ∀ c ∈ (Text.lowercase word ++ back).head?, c.isUpper = false :=
  forall_head?_append (Text.lowercase_ne_nil nonempty) fun _ isFirst =>
    Text.isUpper_of_mem_lowercaseAfter (List.mem_of_mem_head? isFirst)

theorem isLower_of_head?_capitalize {word back : List Char} (nonempty : word ≠ []) :
    ∀ c ∈ (capitalize word ++ back).head?, c.isLower = false := by
  obtain ⟨first, rest, rfl⟩ := List.exists_cons_of_ne_nil nonempty
  rw [capitalize, List.append_assoc]
  exact forall_head?_append (Text.upperOf_ne_nil first) fun _ isFirst =>
    Text.isLower_of_mem_upperOf (List.mem_of_mem_head? isFirst)

theorem exists_intercalate_cons (separator word : List Char) (rest : List (List Char)) :
    ∃ back, List.intercalate separator (word :: rest) = word ++ back := by
  cases rest with
  | nil => exact ⟨[], by simp⟩
  | cons next rest => exact ⟨_, by rw [List.intercalate_cons_cons, List.append_assoc]⟩

/-- Joined words start as the policy demands. -/
theorem canStart_of_head?_joinWords (name : String) (policy : NamingPolicy) :
    ∀ c ∈ (joinWords name policy).head?, policy.canStart c = true := by
  intro c isFirst
  cases words : splitWords name with
  | nil =>
    cases policy with
    | preserve => rfl
    | camel | pascal | snake =>
      rw [joinWords, words] at isFirst
      cases isFirst
  | cons word rest =>
    have nonempty : word ≠ [] := ne_nil_of_mem_splitWords (words ▸ List.mem_cons_self)
    cases policy with
    | preserve => rfl
    | camel =>
      rw [joinWords, words] at isFirst
      simp [NamingPolicy.canStart, isUpper_of_head?_lowercase nonempty c isFirst]
    | pascal =>
      rw [joinWords, words, List.flatMap_cons] at isFirst
      simp [NamingPolicy.canStart, isLower_of_head?_capitalize nonempty c isFirst]
    | snake =>
      obtain ⟨back, joined⟩ := exists_intercalate_cons ['_'] (Text.lowercase word)
        (rest.map Text.lowercase)
      rw [joinWords, words, List.map_cons, joined] at isFirst
      simp [NamingPolicy.canStart, isUpper_of_head?_lowercase nonempty c isFirst]

/-- What makes a name legal keeps its first character or puts an underscore in front. -/
theorem head?_sanitize (name : String) :
    ∀ c ∈ (sanitize name).toList.head?, c = '_' ∨ c ∈ name.toList.head? := by
  have marked (text : String) : ∀ c ∈ ("_" ++ text).toList.head?, c = '_' := by
    intro c isFirst
    rw [String.toList_append] at isFirst
    exact (Option.some.inj isFirst).symm
  have unnamed : "_empty".toList.head? = some '_' := by decide
  intro c isFirst
  unfold sanitize at isFirst
  split at isFirst
  · rw [unnamed] at isFirst
    exact Or.inl (Option.some.inj isFirst).symm
  · dsimp only at isFirst
    split at isFirst
    · split at isFirst
      · exact Or.inl (marked name c isFirst)
      · exact Or.inr isFirst
    · split at isFirst
      · exact Or.inl (marked ("_" ++ name) c isFirst)
      · exact Or.inl (marked name c isFirst)

/-- A name made under a policy starts as the policy demands. -/
theorem admits_applyPolicy (name : String) (policy : NamingPolicy) :
    policy.admits (applyPolicy name policy) = true := by
  have starts : ∀ c ∈ (applyPolicy name policy).toList.head?, policy.canStart c = true := by
    intro c isFirst
    rcases head?_sanitize _ c isFirst with rfl | isOwn
    · exact policy.canStart_underscore
    · rw [String.toList_ofList] at isOwn
      exact canStart_of_head?_joinWords name policy c isOwn
  rw [NamingPolicy.admits]
  cases first : (applyPolicy name policy).toList.head? with
  | none => rfl
  | some c => exact starts c first

end Naming

end TypedClient
