/-
# The normal form of path templates

Reading a path into parts loses nothing: the parts written one after the other are the path again.
The parts that reading can lead to are told here without the reader. In such a list the text of a
placeholder ends at its first closing brace, and an opening brace that is text is never closed.
Reading leaves exactly these lists as they are, so the parts of a path are the only ones of this
form that are written like it.
-/

import Mathlib.Data.List.Chain
import TypedClient.Url.Template

namespace TypedClient

/-- A part as it stands in a path. -/
def UrlPart.text : UrlPart → String
  | .literal text => text
  | .placeholder name => "\x7b" ++ name ++ "\x7d"

namespace UrlTemplate

variable {stretch name : String} {part : UrlPart} {parts rest : List UrlPart}

/-- The path that a template stands for. -/
def path (url : UrlTemplate) : String :=
  String.join (url.parts.map UrlPart.text)

/-- Without arguments every placeholder stays. -/
theorem expand_nil (url : UrlTemplate) : url.expand [] = url.path := by
  have samePart : expandPart [] = UrlPart.text := by
    funext part
    cases part <;> rfl
  rw [expand, samePart, path]

/-- The parts that a path is read into. -/
@[mk_iff]
structure IsNormal (parts : List UrlPart) : Prop where
  /-- No stretch of text is empty. -/
  nonempty : .literal "" ∉ parts
  /-- Of two neighbours one is a placeholder. -/
  apart : parts.IsChain fun first second => first.name?.isSome ∨ second.name?.isSome
  /-- No name goes on after a closing brace. -/
  closed : ∀ name, .placeholder name ∈ parts → '}' ∉ name.toList
  /-- Text with an opening brace comes last. -/
  opens : ∀ text, .literal text ∈ parts.dropLast → '{' ∉ text.toList
  /-- That brace is not closed. -/
  unclosed : ∀ text, parts.getLast? = some (.literal text) →
    '}' ∉ text.toList.dropWhile (· != '{')

/-! ## Normal lists part by part -/

theorem isNormal_nil : IsNormal [] := by
  simp [isNormal_iff]

theorem isNormal_placeholder_cons :
    IsNormal (.placeholder name :: rest) ↔ '}' ∉ name.toList ∧ IsNormal rest := by
  cases rest with
  | nil => simp [isNormal_iff]
  | cons part rest =>
      have apart : (UrlPart.placeholder name).name?.isSome = true := rfl
      simp only [isNormal_iff, List.mem_cons, reduceCtorEq, false_or, List.isChain_cons_cons,
        apart, true_or, true_and, UrlPart.placeholder.injEq, forall_eq_or_imp,
        List.dropLast_cons_cons, List.getLast?_cons_cons]
      tauto

theorem isNormal_literal :
    IsNormal [.literal stretch] ↔ stretch ≠ "" ∧ '}' ∉ stretch.toList.dropWhile (· != '{') := by
  simp [isNormal_iff]

theorem isNormal_literal_cons_cons :
    IsNormal (.literal stretch :: part :: rest) ↔
      stretch ≠ "" ∧ '{' ∉ stretch.toList ∧ part.name?.isSome ∧ IsNormal (part :: rest) := by
  have literal : (UrlPart.literal stretch).name?.isSome = false := rfl
  simp only [isNormal_iff, List.mem_cons, List.isChain_cons_cons, literal, reduceCtorEq,
    Bool.false_eq_true, false_or, UrlPart.literal.injEq, forall_eq_or_imp,
    List.dropLast_cons_cons, List.getLast?_cons_cons]
  tauto

/-! ## Reading a path -/

/-- The characters of parts as they stand in a path. -/
def listText (parts : List UrlPart) : List Char :=
  parts.flatMap fun part => part.text.toList

theorem toList_path (url : UrlTemplate) : url.path.toList = listText url.parts := by
  simp [path, listText, List.flatMap_map]

@[simp]
theorem listText_literalPart (reversed : List Char) :
    listText (literalPart reversed) = reversed.reverse := by
  cases reversed <;> simp [listText, literalPart, UrlPart.text]

/-- What the reader holds back: the text before the next part, and after it a name whose end is
still to come. -/
def pending (text : List Char) : Option (List Char) → List Char
  | none => text.reverse
  | some name => text.reverse ++ '{' :: name.reverse

/-- Reading goes through the whole path and writes it into parts. -/
theorem listText_partsFrom (text : List Char) (name? : Option (List Char)) (path : List Char) :
    listText (partsFrom text name? path) = pending text name? ++ path := by
  fun_induction partsFrom text name? path with
  | case1 text => simp [pending]
  | case2 text name => simp [pending]
  | case3 text c rest opens ih =>
      rw [ih, beq_iff_eq.mp opens]
      simp [pending]
  | case4 text c rest notOpens ih => simp [ih, pending]
  | case5 text name c rest closes ih =>
      have split : listText (literalPart text ++
            .placeholder (String.ofList name.reverse) :: partsFrom [] none rest) =
          listText (literalPart text) ++ '{' :: (name.reverse ++ '}' ::
            listText (partsFrom [] none rest)) := by
        simp [listText, UrlPart.text]
      rw [split, ih, listText_literalPart, beq_iff_eq.mp closes]
      simp [pending]
  | case6 text name c rest notCloses ih => simp [ih, pending]

/-- The parts of a path, written one after the other. -/
theorem path_parse (text : String) : (parse text).path = text := by
  rw [← String.toList_inj, toList_path]
  exact listText_partsFrom [] none text.toList

/-! ## Reading leads to normal lists -/

theorem dropWhile_append_of_plain {text : List Char} (plain : '{' ∉ text) (rest : List Char) :
    (text ++ rest).dropWhile (· != '{') = rest.dropWhile (· != '{') := by
  refine List.dropWhile_append_of_pos fun c member => ?_
  exact bne_iff_ne.mpr (ne_of_mem_of_not_mem member plain)

/-- The text at the end of a path. -/
theorem isNormal_literalPart {reversed : List Char}
    (unclosed : '}' ∉ reversed.reverse.dropWhile (· != '{')) :
    IsNormal (literalPart reversed) := by
  cases reversed with
  | nil => exact isNormal_nil
  | cons c reversed =>
      refine isNormal_literal.mpr ⟨by simp, ?_⟩
      rwa [String.toList_ofList]

/-- The text in front of a placeholder. -/
theorem isNormal_literalPart_append {reversed : List Char} (plain : '{' ∉ reversed)
    (normal : IsNormal (.placeholder name :: rest)) :
    IsNormal (literalPart reversed ++ .placeholder name :: rest) := by
  cases reversed with
  | nil => exact normal
  | cons c reversed =>
      refine isNormal_literal_cons_cons.mpr ⟨by simp, ?_, rfl, normal⟩
      rwa [String.toList_ofList, List.mem_reverse]

/-- Reading leads to a normal list, as long as the text before the next part has no opening brace
and a name that is begun no closing one. -/
theorem isNormal_partsFrom {text : List Char} {name? : Option (List Char)} (plain : '{' ∉ text)
    (notClosed : ∀ name ∈ name?, '}' ∉ name) (path : List Char) :
    IsNormal (partsFrom text name? path) := by
  fun_induction partsFrom text name? path with
  | case1 text =>
      apply isNormal_literalPart
      rw [← List.append_nil text.reverse,
        dropWhile_append_of_plain (List.mem_reverse.not.mpr plain)]
      simp
  | case2 text name =>
      apply isNormal_literalPart
      have unclosed : '}' ∉ name := notClosed name rfl
      have reversed : (name ++ '{' :: text).reverse = text.reverse ++ '{' :: name.reverse := by
        simp
      rw [reversed, dropWhile_append_of_plain (List.mem_reverse.not.mpr plain)]
      simpa using unclosed
  | case3 text c rest opens ih => exact ih plain (by simp)
  | case4 text c rest notOpens ih =>
      have isOther : '{' ≠ c := fun same => notOpens (beq_iff_eq.mpr same.symm)
      exact ih (List.not_mem_cons_of_ne_of_not_mem isOther plain) notClosed
  | case5 text name c rest closes ih =>
      have after : IsNormal (partsFrom [] none rest) := ih (by simp) (by simp)
      apply isNormal_literalPart_append plain
      refine isNormal_placeholder_cons.mpr ⟨?_, after⟩
      rw [String.toList_ofList, List.mem_reverse]
      exact notClosed name rfl
  | case6 text name c rest notCloses ih =>
      have isOther : '}' ≠ c := fun same => notCloses (beq_iff_eq.mpr same.symm)
      refine ih plain fun grown isGrown => ?_
      cases isGrown
      exact List.not_mem_cons_of_ne_of_not_mem isOther (notClosed name rfl)

theorem isNormal_parse (path : String) : IsNormal (parse path).parts :=
  isNormal_partsFrom (by simp) (by simp) path.toList

/-! ## Reading leaves normal lists -/

/-- Characters without an opening brace are text. -/
theorem partsFrom_plain {cs : List Char} (plain : '{' ∉ cs) (text rest : List Char) :
    partsFrom text none (cs ++ rest) = partsFrom (cs.reverse ++ text) none rest := by
  induction cs generalizing text with
  | nil => rfl
  | cons c cs ih =>
      have isOther : (c == '{') = false := beq_false_of_ne (List.ne_of_not_mem_cons plain).symm
      have read : partsFrom text none (c :: (cs ++ rest)) =
          partsFrom (c :: text) none (cs ++ rest) := by
        simp [partsFrom, isOther]
      rw [List.cons_append, read, ih (List.not_mem_of_not_mem_cons plain)]
      simp

/-- After an opening brace, characters without a closing one belong to a name. -/
theorem partsFrom_name {cs : List Char} (notClosed : '}' ∉ cs) (text name rest : List Char) :
    partsFrom text (some name) (cs ++ rest) = partsFrom text (some (cs.reverse ++ name)) rest := by
  induction cs generalizing name with
  | nil => rfl
  | cons c cs ih =>
      have isOther : (c == '}') = false := beq_false_of_ne (List.ne_of_not_mem_cons notClosed).symm
      have read : partsFrom text (some name) (c :: (cs ++ rest)) =
          partsFrom text (some (c :: name)) (cs ++ rest) := by
        simp [partsFrom, isOther]
      rw [List.cons_append, read, ih (List.not_mem_of_not_mem_cons notClosed)]
      simp

theorem partsFrom_placeholder (notClosed : '}' ∉ name.toList) (text rest : List Char) :
    partsFrom text none ((UrlPart.placeholder name).text.toList ++ rest) =
      literalPart text ++ .placeholder name :: partsFrom [] none rest := by
  have written : (UrlPart.placeholder name).text.toList ++ rest =
      '{' :: (name.toList ++ '}' :: rest) := by
    simp [UrlPart.text]
  have opens : partsFrom text none ('{' :: (name.toList ++ '}' :: rest)) =
      partsFrom text (some []) (name.toList ++ '}' :: rest) := by
    simp [partsFrom]
  have closes : partsFrom text (some (name.toList.reverse ++ [])) ('}' :: rest) =
      literalPart text ++ .placeholder name :: partsFrom [] none rest := by
    simp [partsFrom]
  rw [written, opens, partsFrom_name notClosed, closes]

/-- A text in which no brace is closed after one is opened is all text. -/
theorem partsFrom_unclosed {cs : List Char} (unclosed : '}' ∉ cs.dropWhile (· != '{')) :
    partsFrom [] none cs = literalPart cs.reverse := by
  by_cases opens : '{' ∈ cs
  · obtain ⟨before, after, rfl, plain⟩ := List.eq_append_cons_of_mem opens
    rw [dropWhile_append_of_plain plain] at unclosed
    have notClosed : '}' ∉ after := by simpa using unclosed
    have begins : partsFrom (before.reverse ++ []) none ('{' :: after) =
        partsFrom before.reverse (some []) (after ++ []) := by
      simp [partsFrom]
    have ends : partsFrom before.reverse (some (after.reverse ++ [])) [] =
        literalPart (before ++ '{' :: after).reverse := by
      simp [partsFrom]
    rw [partsFrom_plain plain, begins, partsFrom_name notClosed, ends]
  · have read := partsFrom_plain opens [] []
    rwa [List.append_nil, List.append_nil, partsFrom] at read

theorem literalPart_of_ne_empty (nonempty : stretch ≠ "") :
    literalPart stretch.toList.reverse = [.literal stretch] := by
  cases shape : stretch.toList.reverse with
  | nil => exact absurd (String.toList_eq_nil_iff.mp (List.reverse_eq_nil_iff.mp shape)) nonempty
  | cons c reversed =>
      have whole : String.ofList (c :: reversed).reverse = stretch := by
        rw [← shape, List.reverse_reverse, String.ofList_toList]
      simp only [literalPart, whole]

/-- Reading leaves the parts of a normal list, after text that does not join the first of them. -/
theorem partsFrom_listText {text : List Char} (normal : IsNormal parts)
    (separate : text = [] ∨ ∀ part ∈ parts.head?, part.name?.isSome) :
    partsFrom text none (listText parts) = literalPart text ++ parts := by
  induction parts generalizing text with
  | nil => simp [listText, partsFrom]
  | cons part parts ih =>
      have written : listText (part :: parts) = part.text.toList ++ listText parts :=
        List.flatMap_cons
      cases part with
      | placeholder name =>
          obtain ⟨notClosed, normal⟩ := isNormal_placeholder_cons.mp normal
          rw [written, partsFrom_placeholder notClosed, ih normal (.inl rfl)]
          rfl
      | literal stretch =>
          have atStart : text = [] := by
            simpa [UrlPart.name?] using separate
          subst atStart
          cases parts with
          | nil =>
              obtain ⟨nonempty, unclosed⟩ := isNormal_literal.mp normal
              have alone : listText [.literal stretch] = stretch.toList := by
                simp [listText, UrlPart.text]
              rw [alone, partsFrom_unclosed unclosed, literalPart_of_ne_empty nonempty]
              rfl
          | cons next parts =>
              obtain ⟨nonempty, plain, isNamed, normal⟩ := isNormal_literal_cons_cons.mp normal
              have after : partsFrom stretch.toList.reverse none (listText (next :: parts)) =
                  literalPart stretch.toList.reverse ++ next :: parts :=
                ih normal (.inr (by simpa using isNamed))
              rw [written, UrlPart.text, partsFrom_plain plain, List.append_nil, after,
                literalPart_of_ne_empty nonempty]
              rfl

/-- A path is read into parts that are written like it and normal, and a normal list is what its
text is read into. -/
theorem parse_normalForm (text : String) (url : UrlTemplate) :
    (parse text).path = text ∧ (parse text).expand [] = text ∧ IsNormal (parse text).parts ∧
      (parse url.path = url ↔ IsNormal url.parts) := by
  refine ⟨path_parse text, by rw [expand_nil, path_parse], isNormal_parse text, ?_⟩
  constructor
  · intro reads
    rw [← reads]
    exact isNormal_parse url.path
  · intro normal
    have read := partsFrom_listText normal (.inl rfl)
    rw [parse, toList_path, read]
    rfl

/-- A name may hold an opening brace; a closing brace after it is text, as is a brace that opens
nothing. -/
example : (parse "/\x7ba\x7bb\x7d\x7d/\x7b").parts =
    [.literal "/", .placeholder "a\x7bb", .literal "\x7d/\x7b"] := rfl

end UrlTemplate

end TypedClient
