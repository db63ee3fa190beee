/-
# Document texts

A document text is JSON, or else YAML, and stands for an object.
-/

import TypedClient.Compile.Error
import TypedClient.Document.Basic
import TypedClient.Json.Reader
import TypedClient.Yaml.Value

namespace TypedClient

namespace Document

/-- Reads a document tree. -/
def read (root : Json) : Except CompileError Document :=
  match ofJson? root with
  | some document => .ok document
  | none => .error .notAMapping

/-- Reads a document text. -/
def parse (text : String) : Except CompileError Document :=
  match (Json.parse? text).orElse fun _ => Yaml.parse? text with
  | some root => read root
  | none => .error .unreadable

end Document

end TypedClient
