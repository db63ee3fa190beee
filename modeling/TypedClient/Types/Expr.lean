/-
# Type expressions

The types that schemas resolve to, and their text in each target language. A type of several
members gets parentheses where the brackets of an array or the sign of another composition would
otherwise bind to its last member only.
-/

import TypedClient.Naming.Policy
import TypedClient.Naming.Quoting

namespace TypedClient

/-- Scalar types both target languages provide. -/
inductive PrimitiveType where
  | boolean
  | number
  | string
  /-- Binary payloads. -/
  | blob
  /-- Multipart form bodies. -/
  | formData
  deriving DecidableEq, Repr

namespace PrimitiveType

/-- The name of a scalar type, the same in both languages. -/
def name : PrimitiveType → String
  | boolean => "boolean"
  | number => "number"
  | string => "string"
  | blob => "Blob"
  | formData => "FormData"

/-- Every scalar type. -/
def all : List PrimitiveType := [boolean, number, string, blob, formData]

/-- The scalar type a schema tag stands for. -/
def ofTag? (tag : String) : Option PrimitiveType :=
  if ["boolean", "bool", "Boolean"].contains tag then some boolean
  else if ["Int64", "integer", "number"].contains tag then some number
  else if tag = "string" then some string
  else if tag = "file" then some blob
  else if tag = "formData" then some formData
  else none

end PrimitiveType

mutual

/-- A type expression. -/
inductive TypeExpr where
  /-- The type of everything, also the answer for what cannot be resolved. -/
  | any
  /-- An object of no declared shape. -/
  | object
  | primitive (type : PrimitiveType)
  /-- A definition, by the name it has where the type is written. -/
  | named (name : String)
  | array (item : TypeExpr)
  /-- A record with its fields in order. -/
  | record (fields : List TypeField)
  /-- A map from strings. -/
  | map (value : TypeExpr)
  /-- One of several string literals. -/
  | literals (values : List String)
  | union (members : List TypeExpr)
  | intersection (members : List TypeExpr)
  /-- Text that is written as it is. -/
  | raw (text : String)

/-- A field of a record. -/
inductive TypeField where
  | mk (name : String) (type : TypeExpr) (optional : Bool) (description? : Option String)

end

instance : Inhabited TypeExpr := ⟨.any⟩

namespace TypeField

/-- The key of the field, unquoted. -/
def name : TypeField → String
  | mk name _ _ _ => name

/-- The type of the field's value. -/
def type : TypeField → TypeExpr
  | mk _ type _ _ => type

/-- Whether the field may be left out. -/
def optional : TypeField → Bool
  | mk _ _ optional _ => optional

/-- The text that documents the field. -/
def description? : TypeField → Option String
  | mk _ _ _ description? => description?

end TypeField

namespace TypeExpr

/-- Whether the type is the type of everything. -/
def isAny : TypeExpr → Bool
  | any => true
  | _ => false

/-- Whether the type is written as several members side by side. -/
def isComposite : TypeExpr → Bool
  | union members => members.length > 1
  | intersection members => members.length > 1
  | literals values => values.length > 1
  | _ => false

/-- The text of the type of everything. -/
def anyText : Language → String
  | .typeScript => "any"
  | .javaScript => "*"

/-- A member's text beside other members. -/
def besideOthers (type : TypeExpr) (text : String) : String :=
  if type.isComposite then "(" ++ text ++ ")" else text

/-- Members side by side, given their texts. No member at all allows anything, and a single member
stands as it is. -/
def compose (language : Language) (separator : String) (members : List TypeExpr)
    (texts : List String) : String :=
  match texts with
  | [] => anyText language
  | [text] => text
  | texts => separator.intercalate (List.zipWith besideOthers members texts)

/-- The text of a record, given the texts of its fields. -/
def recordText (language : Language) : List String → String
  | [] => "\x7b\x7d"
  | fields =>
    let separator := match language with
      | .typeScript => "; "
      | .javaScript => ", "
    "\x7b " ++ separator.intercalate fields ++ " \x7d"

mutual

/-- The text of a type. -/
def render (language : Language) : TypeExpr → String
  | any => anyText language
  | object =>
    match language with
    | .typeScript => "object"
    | .javaScript => "Object"
  | primitive type => type.name
  | named name => name
  | raw text => text
  | array item =>
    match language with
    | .typeScript => besideOthers item (render language item) ++ "[]"
    | .javaScript => "Array<" ++ render language item ++ ">"
  | record fields => recordText language (renderFields language fields)
  | map value =>
    match language with
    | .typeScript => "Record<string, " ++ render language value ++ ">"
    | .javaScript => "Object<string, " ++ render language value ++ ">"
  | literals values => " | ".intercalate (values.map Naming.quoteLiteral)
  | union members => compose language " | " members (renderMembers language members)
  | intersection members => compose language " & " members (renderMembers language members)

/-- The texts of several members, each as it stands alone. -/
def renderMembers (language : Language) : List TypeExpr → List String
  | [] => []
  | member :: rest => render language member :: renderMembers language rest

/-- The text of a field. -/
def renderField (language : Language) : TypeField → String
  | .mk name type optional _ =>
    Naming.propertyKey name ++ (if optional then "?" else "") ++ ": " ++ render language type

/-- The texts of several fields. -/
def renderFields (language : Language) : List TypeField → List String
  | [] => []
  | field :: rest => renderField language field :: renderFields language rest

end

end TypeExpr

end TypedClient
