/-
# Template literals as scripts evaluate them

The value of a template literal: its text with escapes cooked and line ends
normalized, and for each interpolation the property that it reads off an object.
Which texts are object expressions, and what objects they denote, is a matter of
the script around the literal, so a reader of object expressions is a parameter.

Interpolations are covered as far as generated code has them: one property read
off an object, by a name after a dot or a literal between brackets, whose value
is a string.
-/

import TypedClient.Proofs.Script.StringLiteral
import TypedClient.Url.Template

namespace TypedClient.Script

/-! ## Reading -/

/-- Reads an object expression at the start of a text: the properties of the
object it denotes, and the text after it. -/
abbrev ObjectReader := List Char → Option (List (String × Json) × List Char)

/-- A text is an expression for an object if it is read as one in front of
everything that begins a property access. -/
def Denotes (readObject : ObjectReader) (object : String) (properties : List (String × Json)) :
    Prop :=
  ∀ sign rest, sign = '.' ∨ sign = '[' →
    readObject (object.toList ++ sign :: rest) = some (properties, sign :: rest)

/-- Characters a name after a dot may start with. -/
def isNameStart (c : Char) : Bool :=
  c.isAlpha || c == '_' || c == '$'

/-- Characters a name after a dot may go on with. -/
def isNamePart (c : Char) : Bool :=
  isNameStart c || c.isDigit

/-- The key of a property access at the start of a text, and the text after it. -/
def readAccess : List Char → Option (List Char × List Char)
  | '.' :: rest =>
    match rest.takeWhile isNamePart with
    | [] => none
    | first :: name =>
      if isNameStart first then some (first :: name, rest.dropWhile isNamePart) else none
  | '[' :: rest =>
    match readString rest with
    | some (key, ']' :: rest) => some (key, rest)
    | _ => none
  | _ => none

/-- What an interpolation stands for, read after its opening, and the text after
its closing brace. -/
def readInterpolation (readObject : ObjectReader) (text : List Char) :
    Option (List Char × List Char) := do
  let (properties, rest) ← readObject text
  let (key, rest) ← readAccess rest
  match properties.lookup (String.ofList key), rest with
  | some (.string value), '}' :: rest => some (value.toList, rest)
  | _, _ => none

/-- The value of a template literal and the text after it, read after its opening
backquote. The first `skip` characters belong to an escape or an interpolation. -/
def readTemplateFrom (readObject : ObjectReader) :
    (skip : Nat) → List Char → Option (List Char × List Char)
  | _, [] => none
  | skip + 1, _ :: rest => readTemplateFrom readObject skip rest
  | 0, '\x60' :: rest => some ([], rest)
  | 0, '\\' :: rest =>
    match escape? rest with
    | some (value, length) => (readTemplateFrom readObject length rest).map (prepend value)
    | none => none
  | 0, '$' :: '{' :: rest =>
    match readInterpolation readObject rest with
    | some (value, after) =>
      (readTemplateFrom readObject (rest.length - after.length) rest).map (prepend value)
    | none => none
  | 0, '\r' :: rest =>
    if rest.head? = some '\n' then readTemplateFrom readObject 0 rest
    else (readTemplateFrom readObject 0 rest).map (prepend ['\n'])
  | 0, c :: rest => (readTemplateFrom readObject 0 rest).map (prepend [c])

/-- The value of a text that is one template literal. -/
def evaluateTemplate (readObject : ObjectReader) (text : String) : Option String :=
  match text.toList with
  | '\x60' :: rest =>
    match readTemplateFrom readObject 0 rest with
    | some (value, []) => some (String.ofList value)
    | _ => none
  | _ => none

/-- The reader of a script in which objects are the values of variables. -/
def readVariable (scope : List (String × List (String × Json))) : ObjectReader := fun text =>
  (scope.lookup (String.ofList (text.takeWhile isNamePart))).map (·, text.dropWhile isNamePart)

/-- A variable is an expression for its value. -/
theorem denotes_variable {scope : List (String × List (String × Json))} {name : String}
    {properties : List (String × Json)} (isName : ∀ c ∈ name.toList, isNamePart c = true)
    (found : scope.lookup name = some properties) :
    Denotes (readVariable scope) name properties := by
  rintro sign rest (rfl | rfl) <;>
    simp [readVariable, List.takeWhile_append_of_pos isName, List.dropWhile_append_of_pos isName,
      show isNamePart '.' = false by decide, show isNamePart '[' = false by decide, found]

/-! ## Static text -/

variable (readObject : ObjectReader)

/-- The characters of an escape or an interpolation are passed over. -/
theorem readTemplateFrom_append (taken rest : List Char) :
    readTemplateFrom readObject taken.length (taken ++ rest) =
      readTemplateFrom readObject 0 rest := by
  induction taken with
  | nil => rfl
  | cons c taken ih => rw [List.length_cons, List.cons_append, readTemplateFrom, ih]

theorem readTemplateFrom_escape (value taken rest : List Char)
    (escape : escape? (taken ++ rest) = some (value, taken.length)) :
    readTemplateFrom readObject 0 ('\\' :: (taken ++ rest)) =
      (readTemplateFrom readObject 0 rest).map (prepend value) := by
  rw [readTemplateFrom, escape]
  simp only [readTemplateFrom_append]

/-- Any other character stands for itself, the dollar sign unless a brace follows. -/
theorem readTemplateFrom_cons (c : Char) (rest : List Char) (notQuote : c ≠ '\x60')
    (notBackslash : c ≠ '\\') (notReturn : c ≠ '\r')
    (noOpening : c = '$' → rest.head? ≠ some '{') :
    readTemplateFrom readObject 0 (c :: rest) =
      (readTemplateFrom readObject 0 rest).map (prepend [c]) := by
  rw [readTemplateFrom]
  · exact notQuote
  · exact notBackslash
  · rintro rest' rfl rfl
    exact noOpening rfl rfl
  · exact notReturn

/-- Escaping never brings a brace to the front. -/
theorem head?_escapeTemplate_append {text rest : List Char} (textStart : text.head? ≠ some '{')
    (restStart : rest.head? ≠ some '{') :
    (UrlTemplate.escapeTemplate text ++ rest).head? ≠ some '{' := by
  unfold UrlTemplate.escapeTemplate
  split
  · exact restStart
  · simp
  · simp
  · simp
  · simpa using textStart

/-- Escaped text is read as the text, if no brace follows that could close up with
a dollar sign at its end. -/
theorem readTemplateFrom_escapeTemplate {text rest : List Char} (noReturn : '\r' ∉ text)
    (restStart : rest.head? ≠ some '{') :
    readTemplateFrom readObject 0 (UrlTemplate.escapeTemplate text ++ rest) =
      (readTemplateFrom readObject 0 rest).map (prepend text) := by
  fun_induction UrlTemplate.escapeTemplate text with
  | case1 => exact (map_prepend_nil _).symm
  | case2 text ih =>
      have tail := ih fun member => noReturn (List.mem_cons_of_mem _ member)
      have step := readTemplateFrom_escape readObject ['\\'] ['\\']
        (UrlTemplate.escapeTemplate text ++ rest) rfl
      exact step.trans (by rw [tail, map_prepend_prepend, List.singleton_append])
  | case3 text ih =>
      have tail := ih fun member => noReturn (List.mem_cons_of_mem _ member)
      have step := readTemplateFrom_escape readObject ['\x60'] ['\x60']
        (UrlTemplate.escapeTemplate text ++ rest) rfl
      exact step.trans (by rw [tail, map_prepend_prepend, List.singleton_append])
  | case4 text ih =>
      have tail := ih fun member =>
        noReturn (List.mem_cons_of_mem _ (List.mem_cons_of_mem _ member))
      have step := readTemplateFrom_escape readObject ['$'] ['$']
        ('{' :: (UrlTemplate.escapeTemplate text ++ rest)) rfl
      -- the brace after the escaped dollar sign stands for itself
      have brace := readTemplateFrom_cons readObject '{' (UrlTemplate.escapeTemplate text ++ rest)
        (by decide) (by decide) (by decide) (fun same => absurd same (by decide))
      exact step.trans (by rw [brace, tail, map_prepend_prepend, map_prepend_prepend]; rfl)
  | case5 c text notBackslash notQuote noOpening ih =>
      have tail := ih fun member => noReturn (List.mem_cons_of_mem _ member)
      have step : readTemplateFrom readObject 0 (c :: (UrlTemplate.escapeTemplate text ++ rest)) =
          (readTemplateFrom readObject 0 (UrlTemplate.escapeTemplate text ++ rest)).map
            (prepend [c]) := by
        refine readTemplateFrom_cons readObject c _ notQuote notBackslash
          (fun same => noReturn (same ▸ List.mem_cons_self)) fun dollar => ?_
        refine head?_escapeTemplate_append (fun opens => ?_) restStart
        obtain ⟨text', rfl⟩ := List.head?_eq_some_iff.mp opens
        exact noOpening text' dollar rfl
      exact step.trans (by rw [tail, map_prepend_prepend, List.singleton_append])

/-! ## Interpolations -/

theorem isNamePart_of_isKeyPart {c : Char} (part : Naming.isKeyPart c) : isNamePart c := by
  unfold Naming.isKeyPart Text.isAsciiAlphanumeric at part
  unfold isNamePart isNameStart
  simp only [Bool.or_eq_true] at part ⊢
  tauto

/-- A key that needs no quotes is a name. -/
theorem readAccess_name {key : String} (plain : Naming.needsQuotes key = false)
    {rest : List Char} (ends : ∀ c ∈ rest.head?, isNamePart c = false) :
    readAccess ('.' :: (key.toList ++ rest)) = some (key.toList, rest) := by
  unfold Naming.needsQuotes at plain
  split at plain
  · cases plain
  · rename_i first name shape
    simp only [Bool.not_eq_false', Bool.and_eq_true, List.all_eq_true] at plain
    obtain ⟨start, parts⟩ := plain
    have isName : ∀ c ∈ key.toList, isNamePart c = true := fun c member =>
      isNamePart_of_isKeyPart (parts c (shape ▸ member))
    have stops : rest.takeWhile isNamePart = [] := by
      cases rest with
      | nil => rfl
      | cons c rest => exact List.takeWhile_cons_of_neg (by simp [ends c rfl])
    have goesOn : rest.dropWhile isNamePart = rest := by
      cases rest with
      | nil => rfl
      | cons c rest => exact List.dropWhile_cons_of_neg (by simp [ends c rfl])
    rw [readAccess, List.takeWhile_append_of_pos isName, List.dropWhile_append_of_pos isName,
      stops, goesOn, List.append_nil, shape]
    exact if_pos start

/-- A key that needs quotes is read as a literal between brackets. -/
theorem readAccess_literal (key : String) (rest : List Char) :
    readAccess ('[' :: ((Naming.quoteLiteral key).toList ++ ']' :: rest)) =
      some (key.toList, rest) := by
  rw [readAccess, readString_quoteLiteral]
  rfl

/-- A property access at the end of an interpolation reads the property it was
written for. -/
theorem readInterpolation_propertyAccess {readObject : ObjectReader} {object key value : String}
    {properties : List (String × Json)} (denotes : Denotes readObject object properties)
    (bound : properties.lookup key = some (.string value)) (rest : List Char) :
    readInterpolation readObject ((Naming.propertyAccess object key).toList ++ '}' :: rest) =
      some (value.toList, rest) := by
  unfold readInterpolation
  cases plain : Naming.needsQuotes key with
  | false =>
      have text : (Naming.propertyAccess object key).toList ++ '}' :: rest =
          object.toList ++ '.' :: (key.toList ++ '}' :: rest) := by
        simp [Naming.propertyAccess, plain]
      have ends : ∀ c ∈ ('}' :: rest).head?, isNamePart c = false := by
        rintro c ⟨⟩
        decide
      have name := readAccess_name plain ends
      rw [text, denotes _ _ (Or.inl rfl)]
      simp [name, bound]
  | true =>
      have text : (Naming.propertyAccess object key).toList ++ '}' :: rest =
          object.toList ++ '[' :: ((Naming.quoteLiteral key).toList ++ ']' :: '}' :: rest) := by
        simp [Naming.propertyAccess, plain]
      have literal := readAccess_literal key ('}' :: rest)
      rw [text, denotes _ _ (Or.inr rfl)]
      simp [literal, bound]

/-- An interpolation is read as what it stands for. -/
theorem readTemplateFrom_interpolation {readObject : ObjectReader} {value taken rest : List Char}
    (read : readInterpolation readObject (taken ++ rest) = some (value, rest)) :
    readTemplateFrom readObject 0 ('$' :: '{' :: (taken ++ rest)) =
      (readTemplateFrom readObject 0 rest).map (prepend value) := by
  have length : (taken ++ rest).length - rest.length = taken.length := by simp
  rw [readTemplateFrom, read]
  simp only [length, readTemplateFrom_append]

end TypedClient.Script
