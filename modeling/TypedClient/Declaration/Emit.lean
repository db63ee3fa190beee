/-
# The declarations module

One unit for every definition, in the order given: an interface or a type alias, or in plain
modules a comment that defines the type.
-/

import TypedClient.Declaration.Comment
import TypedClient.Module
import TypedClient.Types.Resolve

namespace TypedClient

/-- A definition under the name it is declared by. -/
structure Definition where
  name : String
  /-- The name in the document. -/
  sourceName : String
  schema : Schema
  resolved : ResolvedType

namespace Definition

/-- A field of an interface, after its doc comment. -/
def interfaceField (field : TypeField) : String :=
  Comment.block "  " field.description? ++ "  " ++
    TypeExpr.renderField .typeScript field ++ ";\n"

/-- An interface for a record, a type alias for any other type. -/
def typeScript (definition : Definition) : String :=
  Comment.block "" definition.resolved.description? ++
    match definition.resolved.type with
    | .record fields =>
      "export interface " ++ definition.name ++ " \x7b\n" ++
        String.join (fields.map interfaceField) ++ "\x7d\n"
    | type => "export type " ++ definition.name ++ " = " ++ type.render .typeScript ++ ";\n"

/-- The comment line of a property. -/
def propertyLine (field : TypeField) : String :=
  let key := Naming.propertyKey field.name
  let name := if field.optional then "[" ++ key ++ "]" else key
  let line := " * @property \x7b" ++ field.type.render .javaScript ++ "\x7d " ++ name
  match Comment.content? field.description? with
  | some content => line ++ " " ++ Comment.guard (Text.replaceAll "\n" " " content) ++ "\n"
  | none => line ++ "\n"

/-- The comment that defines a type. -/
def javaScript (definition : Definition) : String :=
  "/**\n" ++
    (match Comment.content? definition.resolved.description? with
      | some content =>
        String.join ((Comment.trimmedLines (Comment.guard content)).map (Comment.starLine ""))
      | none => "") ++
    (match definition.resolved.type with
      | .record fields =>
        " * @typedef \x7bObject\x7d " ++ definition.name ++ "\n" ++
          String.join (fields.map propertyLine)
      | type =>
        " * @typedef \x7b" ++ type.render .javaScript ++ "\x7d " ++ definition.name ++ "\n") ++
    " */\n"

/-- The unit of a definition. -/
def emit (definition : Definition) : Language → String
  | .typeScript => definition.typeScript
  | .javaScript => definition.javaScript

end Definition

namespace Module

/-- The module of the given definitions. Where nothing is declared that makes the file a module, an
empty export does. -/
def declarations (name : String) (definitions : List Definition) (language : Language) : Module :=
  let units := definitions.foldl
    (fun module definition => module.addUnit definition.name (definition.emit language))
    ((start name .declarations).addRaw preamble)
  if language = .javaScript || definitions.isEmpty then units.addRaw "export \x7b\x7d;"
  else units

end Module

end TypedClient
