/-
# The URL that a template literal builds

Evaluating the template literal of a path, as a script does when the generated
code runs, gives the path with its placeholders filled in. The proof follows the
reading of the path: stretches of text come out of their escapes, a dollar sign in
front of a placeholder stays text, and each placeholder reads its own property.

The carriage return is excluded because scripts turn one in a template literal
into a line feed.
-/

import TypedClient.Proofs.Script.TemplateLiteral

namespace TypedClient.UrlTemplate

open Script

variable (readObject : ObjectReader) (object : String) (properties : List (String × Json))

/-- The parts of a template literal between its quotes. -/
def literalText (object : String) (parts : List UrlPart) : List Char :=
  parts.flatMap fun part => (partLiteral object part).toList

/-- The parts of a path with their placeholders filled in. -/
def expandedText (properties : List (String × Json)) (parts : List UrlPart) : List Char :=
  parts.flatMap fun part => (expandPart properties part).toList

/-- A stretch of text in front of a placeholder or of the closing quote. -/
theorem readTemplateFrom_literalPart {reversed rest : List Char} (noReturn : '\r' ∉ reversed)
    (restStart : rest.head? ≠ some '{') :
    readTemplateFrom readObject 0 (literalText object (literalPart reversed) ++ rest) =
      (readTemplateFrom readObject 0 rest).map
        (prepend (expandedText properties (literalPart reversed))) := by
  cases reversed with
  | nil => exact (map_prepend_nil _).symm
  | cons c reversed =>
      have noReturnText : '\r' ∉ (c :: reversed).reverse := by
        rwa [List.mem_reverse]
      have read := readTemplateFrom_escapeTemplate readObject noReturnText restStart
      simpa [literalText, expandedText, literalPart, partLiteral, expandPart] using read

/-- A placeholder whose argument is a text. -/
theorem readTemplateFrom_placeholder {readObject : ObjectReader} {object name : String}
    {properties : List (String × Json)} (denotes : Denotes readObject object properties)
    (bound : ∃ value, properties.lookup name = some (.string value)) (rest : List Char) :
    readTemplateFrom readObject 0 ((partLiteral object (.placeholder name)).toList ++ rest) =
      (readTemplateFrom readObject 0 rest).map
        (prepend (expandPart properties (.placeholder name)).toList) := by
  obtain ⟨value, found⟩ := bound
  have text : (partLiteral object (.placeholder name)).toList ++ rest =
      '$' :: '{' :: (((Naming.propertyAccess object name).toList ++ ['}']) ++ rest) := by
    simp [partLiteral]
  have expanded : expandPart properties (.placeholder name) = value := by
    simp [expandPart, found, argumentText]
  rw [text, expanded]
  refine readTemplateFrom_interpolation ?_
  have read := readInterpolation_propertyAccess denotes found rest
  simpa using read

variable {readObject object properties}

/-- Reading the literal of a path and expanding the path agree at every point of
reading the path: within a name, the pending brace is text until it is closed. -/
theorem readTemplateFrom_partsFrom (denotes : Denotes readObject object properties)
    (text : List Char) (name? : Option (List Char)) (path : List Char)
    (noReturnText : '\r' ∉ text) (noReturnName : ∀ name ∈ name?, '\r' ∉ name)
    (noReturn : '\r' ∉ path)
    (bound : ∀ name, .placeholder name ∈ partsFrom text name? path →
      ∃ value, properties.lookup name = some (.string value)) :
    readTemplateFrom readObject 0
        (literalText object (partsFrom text name? path) ++ ['\x60']) =
      some (expandedText properties (partsFrom text name? path), []) := by
  fun_induction partsFrom text name? path with
  | case1 text =>
      have read := readTemplateFrom_literalPart readObject object properties noReturnText
        (show ['\x60'].head? ≠ some '{' by decide)
      rw [read]
      simp [readTemplateFrom, prepend]
  | case2 text name =>
      have noReturnAll : '\r' ∉ name ++ '{' :: text := by
        simp [noReturnName name rfl, noReturnText]
      have read := readTemplateFrom_literalPart readObject object properties noReturnAll
        (show ['\x60'].head? ≠ some '{' by decide)
      rw [read]
      simp [readTemplateFrom, prepend]
  | case3 text c rest opens ih =>
      have noReturnRest : '\r' ∉ rest := fun member => noReturn (List.mem_cons_of_mem _ member)
      exact ih noReturnText (by simp) noReturnRest bound
  | case4 text c rest notOpens ih =>
      have noReturnRest : '\r' ∉ rest := fun member => noReturn (List.mem_cons_of_mem _ member)
      have noReturnGrown : '\r' ∉ c :: text := by
        rintro (_ | ⟨_, member⟩)
        · exact noReturn List.mem_cons_self
        · exact noReturnText member
      exact ih noReturnGrown noReturnName noReturnRest bound
  | case5 text name c rest closes ih =>
      have noReturnRest : '\r' ∉ rest := fun member => noReturn (List.mem_cons_of_mem _ member)
      have tail := ih (by simp) (by simp) noReturnRest fun other member =>
        bound other (List.mem_append_right _ (List.mem_cons_of_mem _ member))
      have filled := bound (String.ofList name.reverse)
        (List.mem_append_right _ List.mem_cons_self)
      let name' : UrlPart := .placeholder (String.ofList name.reverse)
      let after := literalText object (partsFrom [] none rest) ++ ['\x60']
      have split : literalText object (literalPart text ++ name' :: partsFrom [] none rest) ++
            ['\x60'] =
          literalText object (literalPart text) ++
            ((partLiteral object name').toList ++ after) := by
        simp [literalText, after]
      have start : ((partLiteral object name').toList ++ after).head? ≠ some '{' := by
        simp [partLiteral, name']
      rw [split, readTemplateFrom_literalPart readObject object properties noReturnText start,
        readTemplateFrom_placeholder denotes filled, tail]
      simp [prepend, expandedText]
  | case6 text name c rest notCloses ih =>
      have noReturnRest : '\r' ∉ rest := fun member => noReturn (List.mem_cons_of_mem _ member)
      have noReturnGrown : ∀ grown ∈ some (c :: name), '\r' ∉ grown := by
        rintro grown ⟨⟩ (_ | ⟨_, member⟩)
        · exact noReturn List.mem_cons_self
        · exact noReturnName name rfl member
      exact ih noReturnText noReturnGrown noReturnRest bound

/-- The template literal of a path evaluates to the expanded path, for every
expression that denotes the object of the arguments and all arguments that bind
each placeholder to a text. -/
theorem evaluate_toTemplateLiteral (readObject : ObjectReader) (path object : String)
    (arguments : List (String × Json)) (noReturn : '\r' ∉ path.toList)
    (denotes : Denotes readObject object arguments)
    (bound : ∀ name, .placeholder name ∈ (parse path).parts →
      ∃ value, arguments.lookup name = some (.string value)) :
    evaluateTemplate readObject ((parse path).toTemplateLiteral object) =
      some ((parse path).expand arguments) := by
  have read := readTemplateFrom_partsFrom denotes [] none path.toList (by simp) (by simp)
    noReturn bound
  have literal : ((parse path).toTemplateLiteral object).toList =
      '\x60' :: (literalText object (parse path).parts ++ ['\x60']) := by
    simp [toTemplateLiteral, literalText, List.flatMap_map]
  have expanded : String.ofList (expandedText arguments (parse path).parts) =
      (parse path).expand arguments := by
    rw [← String.toList_inj]
    simp [expand, expandedText, List.flatMap_map]
  unfold evaluateTemplate
  rw [literal]
  simp only [parse] at read expanded ⊢
  rw [read]
  simp only [expanded]

/-- A path with a placeholder after a dollar sign, one whose name needs quotes, a
backslash, a backquote, and the opening of an interpolation that is none. -/
def samplePath : String := "/$\x7bid\x7d\\\x60/\x7ba\"\n\x7d$\x7bz"

/-- Arguments for both placeholders of the sample. -/
def sampleArguments : List (String × Json) := [("a\"\n", .string "\x7d"), ("id", .string "1")]

theorem evaluate_toTemplateLiteral_sample :
    evaluateTemplate (readVariable [("pathParams", sampleArguments)])
        ((parse samplePath).toTemplateLiteral "pathParams") = some "/$1\\\x60/\x7d$\x7bz" := by
  have parts : (parse samplePath).parts =
      [.literal "/$", .placeholder "id", .literal "\\\x60/", .placeholder "a\"\n",
        .literal "$\x7bz"] := rfl
  refine evaluate_toTemplateLiteral _ samplePath "pathParams" sampleArguments (by decide)
    (denotes_variable (List.all_eq_true.mp rfl) rfl) fun name member => ?_
  rw [parts] at member
  simp only [List.mem_cons, reduceCtorEq, UrlPart.placeholder.injEq, List.not_mem_nil, or_false,
    false_or] at member
  rcases member with rfl | rfl
  · exact ⟨"1", rfl⟩
  · exact ⟨"\x7d", rfl⟩

end TypedClient.UrlTemplate
