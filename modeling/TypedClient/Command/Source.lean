/-
# Sources of documents

A document comes from an address on the web or from a file.
-/

import TypedClient.Command.Environment
import TypedClient.Url.Web

namespace TypedClient.Command

variable {m : Type → Type} [Monad m] [FileAccess m]

/-- Accepts the URL of a web document, and the path of a file. -/
def checkSource (source : String) : ExceptT String m Unit := do
  if !Url.isWeb source && !(← FileAccess.isFile (m := m) source) then
    throw s!"'{source}' is neither a URL nor an existing file"

/-- The text of a document. The cookie is sent along to an address. -/
def loadSource (environment : Environment m) (source cookie : String) :
    ExceptT String m String := do
  if Url.isWeb source then ExceptT.mk (environment.fetch source cookie)
  else
    match ← FileAccess.read (m := m) source with
    | .ok text => pure text
    | .error cause => throw s!"Failed to read {source}: {cause.message}"

end TypedClient.Command
