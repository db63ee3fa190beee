/-
# Target languages and naming policies

The two choices that shape every generated name: the language of the client and the case
convention of its functions. Each has a spelling in settings, read without regard to ASCII case.
-/

import TypedClient.Text.Case

namespace TypedClient

/-- The language of the generated client. -/
inductive Language where
  /-- Interfaces and annotated signatures. -/
  | typeScript
  /-- Plain modules annotated by doc comments. -/
  | javaScript
  deriving DecidableEq, Repr, Inhabited

namespace Language

/-- The file extension of generated modules, which is also the language's short name. -/
def extension : Language → String
  | typeScript => "ts"
  | javaScript => "js"

/-- The name a source formatter knows the language by. -/
def formatterParser : Language → String
  | typeScript => "typescript"
  | javaScript => "babel"

/-- Reads a language name, long or short. -/
def parse (text : String) : Except String Language :=
  let folded := Text.asciiLowercase text
  if ["ts", "typescript"].contains folded then .ok typeScript
  else if ["js", "javascript"].contains folded then .ok javaScript
  else .error s!"unknown language '{folded}' (expected ts or js)"

/-- Reads a short name exactly as it is written. -/
def ofExtension? : String → Option Language
  | "ts" => some typeScript
  | "js" => some javaScript
  | _ => none

end Language

/-- The case convention of generated function names. -/
inductive NamingPolicy where
  /-- `getPetById` -/
  | camel
  /-- `GetPetById` -/
  | pascal
  /-- `get_pet_by_id` -/
  | snake
  /-- The source name with its forbidden characters replaced. -/
  | preserve
  deriving DecidableEq, Repr, Inhabited

namespace NamingPolicy

/-- The canonical name of a policy. -/
def name : NamingPolicy → String
  | camel => "camel"
  | pascal => "pascal"
  | snake => "snake"
  | preserve => "preserve"

/-- Every policy. -/
def all : List NamingPolicy := [camel, pascal, snake, preserve]

/-- Reads a policy name or one of its synonyms. -/
def parse (text : String) : Except String NamingPolicy :=
  let folded := Text.asciiLowercase text
  if ["camel", "camelcase"].contains folded then .ok camel
  else if ["pascal", "pascalcase"].contains folded then .ok pascal
  else if ["snake", "snake_case"].contains folded then .ok snake
  else if ["preserve", "none"].contains folded then .ok preserve
  else .error
    s!"unknown naming policy '{folded}' (expected camel, pascal, snake or preserve)"

/-- Reads a canonical name exactly as it is written. -/
def ofName? (text : String) : Option NamingPolicy :=
  all.find? (·.name == text)

end NamingPolicy

end TypedClient
