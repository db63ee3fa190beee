/-
# Declared names

Definitions are declared under normalized names. Two definitions that would share one are an error,
which names the first definition whose name is taken and the one that took it.
-/

import TypedClient.Compile.Error
import TypedClient.Mock.Sample

namespace TypedClient

/-- A definition with the name it is declared under. -/
structure DeclaredSchema where
  identifier : String
  source : NamedSchema

namespace DeclaredSchema

/-- The declared definitions, given the ones declared before. A definition without a usable name is
left out. -/
def normalizeAfter : (declared : List DeclaredSchema) → List NamedSchema →
    Except CompileError (List DeclaredSchema)
  | declared, [] => .ok declared.reverse
  | declared, source :: rest =>
    match Naming.definitionName? source.name with
    | none => normalizeAfter declared rest
    | some identifier =>
      match declared.find? (·.identifier == identifier) with
      | some first => .error (.namingCollision identifier first.source.name source.name)
      | none => normalizeAfter (⟨identifier, source⟩ :: declared) rest

/-- The definitions of a document under their declared names, in order. -/
def normalize (definitions : List NamedSchema) : Except CompileError (List DeclaredSchema) :=
  normalizeAfter [] definitions

end DeclaredSchema

end TypedClient
