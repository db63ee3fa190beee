/-
# The files of a compilation

Every module is a file. Of mock data there is one file for each answer and one for the table of
routes.
-/

import TypedClient.Compile.Basic
import TypedClient.Files.Change

namespace TypedClient

/-- The files of generated modules: their names and texts. -/
def CompileOutput.files (output : CompileOutput) : List (String × String) :=
  (output.types :: output.requests?.toList).map fun module => (module.name, module.text)

namespace MockArtifact

/-- The name of the route table's file. -/
def routesFile : String := "routes.json"

/-- An answer in an envelope that says it succeeded. -/
def envelope (body : Json) : Json :=
  .object [("code", Json.ofInt 200), ("msg", .string "success"), ("data", body)]

/-- The text of a file that holds a value. -/
def fileText (value : Json) : String := value.pretty 0 ++ "\n"

/-- The files of mock data: their names and texts. -/
def files (mocks : MockArtifact) (wrap : Bool) : List (String × String) :=
  (mocks.entries.map fun entry =>
    (entry.file, fileText (if wrap then envelope entry.body else entry.body))) ++
  [(routesFile, fileText mocks.routes)]

end MockArtifact

/-- Plans files in a directory. -/
def FileChange.planAll {m : Type → Type} [Monad m] [FileAccess m] (root : String)
    (files : List (String × String)) : m (List FileChange) :=
  files.mapM fun (name, text) => FileChange.plan (Path.join root name) text

end TypedClient
