/-
# Path templates

A path such as `/pet/{petId}` as a sequence of literal stretches and placeholders. The sequence is
written back as the template literal that builds the URL when the generated code runs, and expanded
directly for sample URLs.
-/

import TypedClient.Json.Printer
import TypedClient.Naming.Quoting

namespace TypedClient

/-- One piece of a path template. -/
inductive UrlPart where
  /-- Text that stands for itself. -/
  | literal (text : String)
  /-- The name between a pair of braces. -/
  | placeholder (name : String)
  deriving DecidableEq, Repr

/-- The name of a placeholder. -/
def UrlPart.name? : UrlPart → Option String
  | .literal _ => none
  | .placeholder name => some name

/-- A path template in order. -/
structure UrlTemplate where
  parts : List UrlPart
  deriving DecidableEq, Repr

namespace UrlTemplate

/-- A literal stretch from its characters in reverse; an empty stretch is no part. -/
def literalPart : (reversed : List Char) → List UrlPart
  | [] => []
  | reversed => [.literal (String.ofList reversed.reverse)]

/-- The parts of a path, given the pending literal text in reverse and, after an opening brace, the
pending name in reverse. A brace that is never closed is literal text. -/
def partsFrom : (text : List Char) → (name? : Option (List Char)) → List Char → List UrlPart
  | text, none, [] => literalPart text
  | text, some name, [] => literalPart (name ++ '{' :: text)
  | text, none, c :: rest =>
    if c == '{' then partsFrom text (some []) rest else partsFrom (c :: text) none rest
  | text, some name, c :: rest =>
    if c == '}' then
      literalPart text ++ .placeholder (String.ofList name.reverse) :: partsFrom [] none rest
    else partsFrom text (some (c :: name)) rest

/-- Reads the placeholders of a path. -/
def parse (path : String) : UrlTemplate :=
  ⟨partsFrom [] none path.toList⟩

/-- The placeholder names in order of first appearance. -/
def names (url : UrlTemplate) : List String :=
  (url.parts.filterMap UrlPart.name?).eraseDups

/-- Whether the path has a placeholder. -/
def hasPlaceholder (url : UrlTemplate) : Bool :=
  url.parts.any (·.name?.isSome)

/-- Literal text inside a template literal: the backslash, the backquote and the opening of an
interpolation are escaped. -/
def escapeTemplate : List Char → List Char
  | [] => []
  | '\\' :: rest => '\\' :: '\\' :: escapeTemplate rest
  | '\x60' :: rest => '\\' :: '\x60' :: escapeTemplate rest
  | '$' :: '{' :: rest => '\\' :: '$' :: '{' :: escapeTemplate rest
  | c :: rest => c :: escapeTemplate rest

/-- A part inside a template literal that reads placeholders off `object`. -/
def partLiteral (object : String) : UrlPart → String
  | .literal text => String.ofList (escapeTemplate text.toList)
  | .placeholder name => "$\x7b" ++ Naming.propertyAccess object name ++ "\x7d"

/-- The template literal that reads each placeholder off `object`. -/
def toTemplateLiteral (url : UrlTemplate) (object : String) : String :=
  "\x60" ++ String.join (url.parts.map (partLiteral object)) ++ "\x60"

/-- A value as it reads inside a URL: text without its quotes, anything else as JSON. -/
def argumentText : Json → String
  | .string s => s
  | value => value.compact

/-- A part with its placeholder filled in; a placeholder without an argument stays. -/
def expandPart (arguments : List (String × Json)) : UrlPart → String
  | .literal text => text
  | .placeholder name =>
    match arguments.lookup name with
    | some value => argumentText value
    | none => "\x7b" ++ name ++ "\x7d"

/-- The path with its placeholders filled in. -/
def expand (url : UrlTemplate) (arguments : List (String × Json)) : String :=
  String.join (url.parts.map (expandPart arguments))

end UrlTemplate

end TypedClient
