/-
# Resolving schemas to types

Every schema has a type. A reference resolves to the name of its definition and is never followed,
so definitions may refer to each other in any way. A reference to a definition that is not known,
and a tag that is not known, allow anything.
-/

import TypedClient.Json.Printer
import TypedClient.Naming.Alias
import TypedClient.Schema.Basic
import TypedClient.Types.Expr

namespace TypedClient

/-- What references resolve against. -/
structure TypeResolver where
  /-- The declared definitions; without them every reference is taken to be declared. -/
  known? : Option NameSet := none
  /-- The names under which definitions are written, where these differ. -/
  aliases : Naming.Aliases := []

/-- The resolution of one schema. -/
structure ResolvedType where
  type : TypeExpr
  /-- The definitions the type refers to, by their own names. -/
  imports : NameSet
  /-- Whether the value is a file. -/
  isBinary : Bool
  /-- Whether the value must be present. -/
  required : Bool
  description? : Option String

instance : Inhabited ResolvedType := ⟨⟨.any, ∅, false, false, none⟩⟩

namespace ResolvedType

/-- The type of everything, referring to nothing. -/
def any : ResolvedType := ⟨.any, ∅, false, false, none⟩

/-- The text of the type. -/
def render (resolved : ResolvedType) (language : Language) : String :=
  resolved.type.render language

/-- The resolution with another description, if one is given. -/
def withDescription (resolved : ResolvedType) (description? : Option String) : ResolvedType :=
  { resolved with description? := description?.orElse fun _ => resolved.description? }

end ResolvedType

namespace TypeResolver

/-- Whether a definition name counts as declared. -/
def isKnown (resolver : TypeResolver) (name : String) : Bool :=
  match resolver.known? with
  | some known => name ∈ known
  | none => true

/-- The declared definition a pointer refers to. -/
def target? (resolver : TypeResolver) (pointer : String) : Option String :=
  (Naming.referenceName? pointer).filter resolver.isKnown

/-- The name under which a definition is written. -/
def localName (resolver : TypeResolver) (name : String) : String :=
  (resolver.aliases.lookup name).getD name

/-- The text of a literal value: text as it is, anything else as JSON. -/
def literalText : Json → String
  | .string s => s
  | value => value.compact

/-- Members composed by `compose`: no member allows anything, and a single one stands alone. -/
def composition (compose : List TypeExpr → TypeExpr) : List TypeExpr → TypeExpr
  | [] => .any
  | [member] => member
  | members => compose members

mutual

/-- The type of a schema. -/
def typeOf (resolver : TypeResolver) : Schema → TypeExpr
  | .mk kind _ _ => typeOfKind resolver kind

/-- The type of a schema kind. -/
def typeOfKind (resolver : TypeResolver) : SchemaKind → TypeExpr
  | .reference pointer =>
    match resolver.target? pointer with
    | some name => .named (resolver.localName name)
    | none => .any
  | .untyped => .any
  | .array (some items) => .array (typeOf resolver items)
  | .array none => .array .any
  | .object [] (some value) => .map (typeOf resolver value)
  | .object [] none => .object
  | .object (first :: rest) _ => .record (fieldOf resolver first :: fieldsOf resolver rest)
  | .literals values => .literals (values.map literalText)
  | .allOf members => composition .intersection (typesOf resolver members)
  | .oneOf members => composition .union (typesOf resolver members)
  | .tags tags => .raw (Json.array tags).compact
  | .primitive tag =>
    match PrimitiveType.ofTag? tag with
    | some type => .primitive type
    | none => .any

/-- The types of several schemas. -/
def typesOf (resolver : TypeResolver) : List Schema → List TypeExpr
  | [] => []
  | schema :: rest => typeOf resolver schema :: typesOf resolver rest

/-- The field of a property. -/
def fieldOf (resolver : TypeResolver) : SchemaProperty → TypeField
  | .mk name schema required => .mk name (typeOf resolver schema) (!required) schema.description?

/-- The fields of several properties. -/
def fieldsOf (resolver : TypeResolver) : List SchemaProperty → List TypeField
  | [] => []
  | property :: rest => fieldOf resolver property :: fieldsOf resolver rest

end

mutual

/-- The definitions a schema's type refers to. -/
def importsOf (resolver : TypeResolver) : Schema → NameSet
  | .mk kind _ _ => importsOfKind resolver kind

/-- The definitions a schema kind's type refers to. -/
def importsOfKind (resolver : TypeResolver) : SchemaKind → NameSet
  | .reference pointer =>
    match resolver.target? pointer with
    | some name => NameSet.empty.insert name
    | none => ∅
  | .array (some items) => importsOf resolver items
  | .object [] (some value) => importsOf resolver value
  | .object (first :: rest) _ =>
    (importsOfProperty resolver first).union (importsOfProperties resolver rest)
  | .allOf members => importsOfMembers resolver members
  | .oneOf members => importsOfMembers resolver members
  | .untyped | .array none | .object [] none | .literals _ | .tags _ | .primitive _ => ∅

/-- The definitions several schemas refer to. -/
def importsOfMembers (resolver : TypeResolver) : List Schema → NameSet
  | [] => ∅
  | schema :: rest => (importsOf resolver schema).union (importsOfMembers resolver rest)

/-- The definitions a property refers to. -/
def importsOfProperty (resolver : TypeResolver) : SchemaProperty → NameSet
  | .mk _ schema _ => importsOf resolver schema

/-- The definitions several properties refer to. -/
def importsOfProperties (resolver : TypeResolver) : List SchemaProperty → NameSet
  | [] => ∅
  | property :: rest =>
    (importsOfProperty resolver property).union (importsOfProperties resolver rest)

end

/-- Resolves a schema. -/
def resolve (resolver : TypeResolver) (schema : Schema) : ResolvedType :=
  { type := resolver.typeOf schema
    imports := resolver.importsOf schema
    isBinary := schema.isBinary
    required := false
    description? := schema.description? }

end TypeResolver

end TypedClient
