/-
# Cutting a text into tokens

A text is cut into tokens piece by piece, as long as no piece goes on inside the
next one. Only a name could do so, and only into another identifier character.
What follows a piece is left open, so that pieces compose.
-/

import TypedClient.Proofs.Naming.Identifier
import TypedClient.Proofs.Script.TypeReading

namespace TypedClient.Script

/-- What follows does not go on with an identifier. -/
def Apart (text : List Char) : Prop :=
  ∀ c ∈ text.head?, Naming.isIdentifierPart c = false

/-- A text is cut into some tokens, whatever stands apart after it. -/
def Lexes (text : List Char) (tokens : List TypeToken) : Prop :=
  ∀ rest, Apart rest → tokensFrom 0 (text ++ rest) = (tokensFrom 0 rest).map (tokens ++ ·)

theorem apart_cons {c : Char} (apart : Naming.isIdentifierPart c = false) (text : List Char) :
    Apart (c :: text) := by
  intro other starts
  cases starts
  exact apart

theorem Apart.append {text rest : List Char} (first : Apart text) (second : Apart rest) :
    Apart (text ++ rest) := by
  cases text with
  | nil => exact second
  | cons c text => exact first

attribute [local simp] tokensFrom in
theorem tokensFrom_append (taken rest : List Char) :
    tokensFrom taken.length (taken ++ rest) = tokensFrom 0 rest := by
  induction taken with
  | nil => rfl
  | cons c taken ih => simp [ih]

namespace Lexes

variable {text rest : List Char} {tokens others : List TypeToken}

theorem nil : Lexes [] [] := by
  intro rest _
  simp

theorem append (first : Lexes text tokens) (second : Lexes rest others) (apart : Apart rest) :
    Lexes (text ++ rest) (tokens ++ others) := by
  intro after stops
  rw [List.append_assoc, first _ (apart.append stops), second after stops, Option.map_map]
  congr 1
  funext tail
  exact (List.append_assoc tokens others tail).symm

theorem cons_blank (lexes : Lexes text tokens) : Lexes (' ' :: text) tokens := by
  intro after stops
  rw [List.cons_append, tokensFrom, if_pos rfl, lexes after stops]

theorem cons_sign {c : Char} (sign : c ∈ typeSigns) (lexes : Lexes text tokens) :
    Lexes (c :: text) (.sign c :: tokens) := by
  have notBlank : c ≠ ' ' := by
    rintro rfl
    exact absurd sign (by decide)
  intro after stops
  rw [List.cons_append, tokensFrom, if_neg notBlank, if_pos (List.contains_iff_mem.mpr sign),
    lexes after stops, Option.map_map]
  rfl

/-- A sign alone. -/
theorem sign {c : Char} (sign : c ∈ typeSigns) : Lexes [c] [.sign c] :=
  cons_sign sign nil

/-- Characters that start an identifier start nothing else. -/
theorem tokensFrom_of_isIdentifierStart {c : Char} (start : Naming.isIdentifierStart c = true)
    (rest : List Char) :
    tokensFrom 0 (c :: rest) =
      (tokensFrom (rest.takeWhile Naming.isIdentifierPart).length rest).map
        (.name (String.ofList (c :: rest.takeWhile Naming.isIdentifierPart)) :: ·) := by
  have others : (' ' :: '"' :: typeSigns).any Naming.isIdentifierStart = false := by decide
  have differs : ∀ other ∈ ' ' :: '"' :: typeSigns, c ≠ other := by
    rintro other member rfl
    exact List.any_eq_false.mp others c member start
  have noSign : typeSigns.contains c = false := by
    rw [List.contains_eq_mem, decide_eq_false_iff_not]
    exact fun member => differs c (List.mem_cons_of_mem _ (List.mem_cons_of_mem _ member)) rfl
  rw [tokensFrom, if_neg (differs ' ' List.mem_cons_self), noSign,
    if_neg Bool.false_ne_true,
    if_neg (differs '"' (List.mem_cons_of_mem _ List.mem_cons_self)), if_pos start]

/-- An identifier is one token. -/
theorem name {name : String} (isName : Naming.IsName name) :
    Lexes name.toList [.name name] := by
  obtain ⟨⟨first, others, shape, start⟩, parts⟩ := isName
  rw [shape] at parts ⊢
  have whole : String.ofList (first :: others) = name := by rw [← shape, String.ofList_toList]
  intro after stops
  have munched : (others ++ after).takeWhile Naming.isIdentifierPart = others := by
    rw [List.takeWhile_append_of_pos fun c member => parts c (List.mem_cons_of_mem first member)]
    cases after with
    | nil => simp
    | cons c after => rw [List.takeWhile_cons_of_neg (by simp [stops c rfl]), List.append_nil]
  rw [List.cons_append, tokensFrom_of_isIdentifierStart start, munched, tokensFrom_append, whole]
  rfl

/-- A written literal is one token. -/
theorem literal (value : String) : Lexes (Naming.quoteLiteral value).toList [.literal value] := by
  obtain ⟨inner, shape⟩ : ∃ inner, (Naming.quoteLiteral value).toList = '"' :: inner :=
    ⟨(Naming.escapeLiteral value).toList ++ ['"'], by simp [Naming.quoteLiteral]⟩
  rw [shape]
  intro after _
  have read : readStringFrom 0 (inner ++ after) = some (value.toList, after) := by
    have quoted := readString_quoteLiteral value after
    rwa [shape] at quoted
  rw [List.cons_append, tokensFrom, if_neg (by decide), if_neg (by decide), if_pos rfl, read]
  simp only
  rw [List.length_append, Nat.add_sub_cancel, tokensFrom_append, String.ofList_toList]
  rfl

/-- Items are cut one by one where a separator with a sign stands between them. -/
theorem separated {α : Type} {separator : String} {sign : Char} {text : α → String}
    {tokens : α → List TypeToken} {items : List α}
    (apart : ∀ rest, Apart (separator.toList ++ rest))
    (between : ∀ {text : List Char} {tokens : List TypeToken}, Lexes text tokens →
      Lexes (separator.toList ++ text) (.sign sign :: tokens))
    (each : ∀ item ∈ items, Lexes (text item).toList (tokens item)) :
    Lexes (separator.intercalate (items.map text)).toList
      (Script.separated sign (items.map tokens)) := by
  rw [String.toList_intercalate, List.map_map]
  induction items with
  | nil => exact nil
  | cons item items ih =>
      have first := each item List.mem_cons_self
      have tail := ih fun other member => each other (List.mem_cons_of_mem item member)
      cases items with
      | nil => simpa [Script.separated] using first
      | cons next items =>
          rw [List.map_cons, List.map_cons, List.intercalate_cons_cons, List.map_cons,
            List.map_cons, separated_cons_cons, List.append_assoc]
          exact first.append (between tail) (apart _)

end Lexes

end TypedClient.Script
