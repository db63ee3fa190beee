/-
# Type expressions as scripts read them

A reference grammar for the types of typed scripts. A text is cut into names,
string literals and signs, with blanks between them. The brackets of an array bind
closest, then the sign of an intersection, then the sign of a union; parentheses
group. Object types have fields whose keys are names or literals, and a name may
take type arguments.
-/

import TypedClient.Naming.Identifier
import TypedClient.Proofs.Script.StringLiteral

namespace TypedClient.Script

mutual

/-- A type as the grammar sees it. -/
inductive TypeTree where
  /-- A built-in or a declared type. -/
  | name (name : String)
  /-- The type of one text. -/
  | literal (value : String)
  | generic (name : String) (arguments : List TypeTree)
  | array (item : TypeTree)
  | object (fields : List TypeTreeField)
  | union (members : List TypeTree)
  | intersection (members : List TypeTree)

/-- A field of an object type. -/
inductive TypeTreeField where
  | mk (key : String) (optional : Bool) (type : TypeTree)

end

instance : Inhabited TypeTree := ⟨.object []⟩

/-- The type of a field. -/
def TypeTreeField.type : TypeTreeField → TypeTree
  | mk _ _ type => type

/-! ## Tokens -/

/-- A token of a type. -/
inductive TypeToken where
  | name (name : String)
  | literal (value : String)
  | sign (c : Char)
  deriving DecidableEq, Repr

/-- The signs of types. -/
def typeSigns : List Char :=
  ['[', ']', '(', ')', '{', '}', '<', '>', '|', '&', '?', ':', ';', ',']

/-- The tokens of a text. The first `skip` characters belong to the token before. -/
def tokensFrom : (skip : Nat) → List Char → Option (List TypeToken)
  | _, [] => some []
  | skip + 1, _ :: rest => tokensFrom skip rest
  | 0, c :: rest =>
    if c = ' ' then tokensFrom 0 rest
    else if typeSigns.contains c then (tokensFrom 0 rest).map (.sign c :: ·)
    else if c = '"' then
      match readStringFrom 0 rest with
      | some (value, after) =>
        (tokensFrom (rest.length - after.length) rest).map (.literal (String.ofList value) :: ·)
      | none => none
    else if Naming.isIdentifierStart c then
      let others := rest.takeWhile Naming.isIdentifierPart
      (tokensFrom others.length rest).map (.name (String.ofList (c :: others)) :: ·)
    else none

/-! ## Reading -/

/-- Reads something at the start of some tokens and gives the tokens after it. -/
abbrev TokenReader (α : Type) := List TypeToken → Option (α × List TypeToken)

/-- Reads items with a sign between them, at most as many as given. -/
def readSeparated {α : Type} (sign : Char) (readItem : TokenReader α) :
    (count : Nat) → TokenReader (List α)
  | 0, _ => none
  | count + 1, tokens =>
    match readItem tokens with
    | some (item, .sign c :: rest) =>
      if c = sign then
        (readSeparated sign readItem count rest).map fun (items, rest) => (item :: items, rest)
      else some ([item], .sign c :: rest)
    | some (item, rest) => some ([item], rest)
    | none => none

/-- Reads items with a sign between them. -/
def readItems {α : Type} (sign : Char) (readItem : TokenReader α) : TokenReader (List α) :=
  fun tokens => readSeparated sign readItem (tokens.length + 1) tokens

/-- Members side by side; a single one stands alone. -/
def sideBySide (compose : List TypeTree → TypeTree) : List TypeTree → TypeTree
  | [member] => member
  | members => compose members

section

-- Types inside brackets are read by the reader for one bracket less.
variable (readInner : TokenReader TypeTree)

/-- Reads a field after its key. -/
def readFieldType (key : String) (optional : Bool) : TokenReader TypeTreeField
  | .sign ':' :: rest => (readInner rest).map fun (type, rest) => (.mk key optional type, rest)
  | _ => none

/-- Reads a field of an object type. -/
def readField : TokenReader TypeTreeField
  | .name key :: .sign '?' :: rest => readFieldType readInner key true rest
  | .literal key :: .sign '?' :: rest => readFieldType readInner key true rest
  | .name key :: rest => readFieldType readInner key false rest
  | .literal key :: rest => readFieldType readInner key false rest
  | _ => none

/-- Reads a type that needs no parentheses anywhere, without array brackets. -/
def readPrimary : TokenReader TypeTree
  | .literal value :: rest => some (.literal value, rest)
  | .name name :: .sign '<' :: rest =>
    match readItems ',' readInner rest with
    | some (arguments, .sign '>' :: rest) => some (.generic name arguments, rest)
    | _ => none
  | .name name :: rest => some (.name name, rest)
  | .sign '(' :: rest =>
    match readInner rest with
    | some (type, .sign ')' :: rest) => some (type, rest)
    | _ => none
  | .sign '{' :: .sign '}' :: rest => some (.object [], rest)
  | .sign '{' :: rest =>
    match readItems ';' (readField readInner) rest with
    | some (fields, .sign '}' :: rest) => some (.object fields, rest)
    | _ => none
  | _ => none

/-- Reads the array brackets after a type. -/
def readArrays (item : TypeTree) : List TypeToken → TypeTree × List TypeToken
  | .sign '[' :: .sign ']' :: rest => readArrays (.array item) rest
  | rest => (item, rest)

/-- Reads a type with its array brackets. -/
def readPostfix : TokenReader TypeTree := fun tokens =>
  (readPrimary readInner tokens).map fun (item, rest) => readArrays item rest

/-- Reads an intersection. -/
def readIntersection : TokenReader TypeTree := fun tokens =>
  (readItems '&' (readPostfix readInner) tokens).map fun (members, rest) =>
    (sideBySide .intersection members, rest)

/-- Reads a union. -/
def readUnion : TokenReader TypeTree := fun tokens =>
  (readItems '|' (readIntersection readInner) tokens).map fun (members, rest) =>
    (sideBySide .union members, rest)

end

/-- Reads a type with brackets inside one another up to a depth. -/
def readType : (depth : Nat) → TokenReader TypeTree
  | 0, _ => none
  | depth + 1, tokens => readUnion (readType depth) tokens

/-- The type that a whole text writes. -/
def parseType (text : String) : Option TypeTree :=
  match tokensFrom 0 text.toList with
  | some tokens =>
    match readType tokens.length tokens with
    | some (type, []) => some type
    | _ => none
  | none => none

end TypedClient.Script
