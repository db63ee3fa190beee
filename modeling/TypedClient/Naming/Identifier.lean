/-
# Identifiers

Which texts may be declared in generated code, and how a raw name becomes one of them. A raw name
is flattened to identifier characters and then made legal: a mark in front of a leading digit or a
reserved word, and another in front of a built-in type name.
-/

import TypedClient.Text.Lines

namespace TypedClient.Naming

/-- Words that cannot be declared. -/
def reservedWords : List String :=
  ["break", "case", "catch", "class", "const", "continue", "debugger", "default", "delete", "do",
    "else", "enum", "export", "extends", "false", "finally", "for", "function", "if", "import",
    "in", "instanceof", "new", "null", "return", "super", "switch", "this", "throw", "true",
    "try", "typeof", "var", "void", "while", "with", "yield", "let", "static", "implements",
    "interface", "package", "private", "protected", "public", "await", "async"]

/-- Type names the language predefines, which no declaration may take. -/
def predefinedTypes : List String :=
  ["any", "unknown", "never", "number", "bigint", "boolean", "string", "symbol", "object",
    "undefined"]

/-- Global names that an imported definition would hide inside the request module. -/
def globalNames : List String :=
  ["Array", "Blob", "Boolean", "Date", "Error", "File", "FormData", "Headers", "JSON", "Map",
    "Number", "Object", "Partial", "Promise", "Record", "RegExp", "Request", "Response", "Set",
    "String", "Symbol", "URL", "URLSearchParams", "AxiosResponse", "axios", "fetch"]

/-- Characters a flattened name may hold. -/
def isNameChar (c : Char) : Bool :=
  Text.isAlphanumeric c || c == '_'

/-- Characters an identifier may start with. -/
def isIdentifierStart (c : Char) : Bool :=
  Text.isAlphabetic c || c == '_' || c == '$'

/-- Characters an identifier may go on with. -/
def isIdentifierPart (c : Char) : Bool :=
  Text.isAlphanumeric c || c == '_' || c == '$'

/-- Whether a text can be declared as it is. -/
def isValidIdentifier (name : String) : Bool :=
  match name.toList with
  | [] => false
  | first :: rest =>
    isIdentifierStart first && rest.all isIdentifierPart && !reservedWords.contains name

/-- Flattens a name: forbidden characters become underscores, and the underscores at the end go
away. -/
def flattenList (cs : List Char) : List Char :=
  Text.dropEndWhile (· == '_') (cs.map fun c => if isNameChar c then c else '_')

/-- Flattens a name that may carry type parameters into identifier characters. -/
def flatten (name : String) : String :=
  String.ofList (flattenList name.toList)

/-- Makes a name legal: an underscore goes in front of a character that cannot start an identifier,
and then in front of a reserved word. The empty name gets a name of its own. -/
def sanitize (name : String) : String :=
  match name.toList with
  | [] => "_empty"
  | first :: _ =>
    let started := if isIdentifierStart first then name else "_" ++ name
    if reservedWords.contains started then "_" ++ started else started

/-- The name a definition is declared under, or nothing if flattening leaves nothing. -/
def definitionName? (raw : String) : Option String :=
  let flat := flatten raw
  if flat.isEmpty then none
  else
    let name := sanitize flat
    some (if predefinedTypes.contains name then "_" ++ name else name)

/-- The text after the last slash of a pointer. -/
def lastSegment (pointer : String) : String :=
  String.ofList ((pointer.toList.reverse.takeWhile (· != '/')).reverse)

/-- The declared name of the definition a reference points at. -/
def referenceName? (pointer : String) : Option String :=
  definitionName? (lastSegment pointer)

end TypedClient.Naming
