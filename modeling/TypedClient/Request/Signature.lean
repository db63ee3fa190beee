/-
# Signatures and doc comments of request functions

The parameter list of a request function in each language, and the comment in front of it.
-/

import TypedClient.Declaration.Comment
import TypedClient.Request.Parameters

namespace TypedClient.Request

/-- The arguments of a request function. -/
structure Arguments where
  first? : Option FirstArgument
  /-- The type of the second argument. -/
  path? : Option TypeExpr

namespace Arguments

/-- The first argument in a parameter list. Where a second one follows, it cannot be marked as
optional, and there is always a first one. -/
def firstParameter (arguments : Arguments) : Language → List String
  | .typeScript =>
    match arguments.first? with
    | some first =>
      let type := first.type.render .typeScript
      [if first.defaultEmpty then RequestParameters.firstName ++ ": " ++ type ++ " = \x7b\x7d"
        else if first.optional && arguments.path?.isSome then
          RequestParameters.firstName ++ ": " ++ type ++ " | undefined"
        else if first.optional then RequestParameters.firstName ++ "?: " ++ type
        else RequestParameters.firstName ++ ": " ++ type]
    | none =>
      if arguments.path?.isSome then [RequestParameters.firstName ++ ": \x7b\x7d = \x7b\x7d"]
      else []
  | .javaScript =>
    match arguments.first? with
    | some first =>
      [if first.defaultEmpty then RequestParameters.firstName ++ " = \x7b\x7d"
        else RequestParameters.firstName]
    | none =>
      if arguments.path?.isSome then [RequestParameters.firstName ++ " = \x7b\x7d"] else []

/-- The second argument in a parameter list. -/
def pathParameter (arguments : Arguments) : Language → List String
  | .typeScript => (arguments.path?.map fun type =>
      RequestParameters.pathName ++ ": " ++ type.render .typeScript).toList
  | .javaScript => (arguments.path?.map fun _ => RequestParameters.pathName).toList

/-- The parameter list with its parentheses. -/
def signature (arguments : Arguments) (language : Language) : String :=
  "(" ++ ", ".intercalate
    (arguments.firstParameter language ++ arguments.pathParameter language) ++ ")"

/-- The comment lines that say the types of the arguments and of what is returned. -/
def typeLines (arguments : Arguments) (returnType : String) : List String :=
  (arguments.first?.map fun first =>
      let name := if first.defaultEmpty || first.optional then
          "[" ++ RequestParameters.firstName ++ "]"
        else RequestParameters.firstName
      "@param \x7b" ++ first.type.render .javaScript ++ "\x7d " ++ name).toList ++
    (arguments.path?.map fun type =>
      "@param \x7b" ++ type.render .javaScript ++ "\x7d " ++
        RequestParameters.pathName).toList ++
    ["@returns \x7b" ++ returnType ++ "\x7d"]

end Arguments

/-- The comment lines of a text of the document. -/
def proseLines (text? : Option String) : List String :=
  match text? with
  | some text => if Text.isBlank text then [] else Text.lines (Comment.guard (Text.trim text))
  | none => []

/-- The lines of the comment in front of a request function. A description that repeats the summary
is left out. -/
def commentLines (operation : Operation) (language : Language) (arguments : Arguments)
    (returnType : String) : List String :=
  proseLines operation.summary? ++
    (if operation.description? == operation.summary? then []
      else proseLines operation.description?) ++
    (if operation.deprecated then ["@deprecated"] else []) ++
    match language with
    | .typeScript => []
    | .javaScript => arguments.typeLines returnType

/-- A line of a comment of several lines. -/
def commentLine (line : String) : String :=
  if Text.isBlank line then " *\n" else Comment.starLine "" (Text.trimEnd line)

/-- The comment of the given lines. A single line stands beside the comment signs, except in plain
modules. -/
def comment (language : Language) : List String → String
  | [] => ""
  | lines =>
    match language, lines with
    | .typeScript, [line] => "/** " ++ line ++ " */\n"
    | _, lines => "/**\n" ++ String.join (lines.map commentLine) ++ " */\n"

end TypedClient.Request
