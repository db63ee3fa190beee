/-
# Changes to files

Files are planned first and written second, so that the changes can be shown without writing any.
-/

import TypedClient.Diff.Unified
import TypedClient.Files.Access
import TypedClient.Text.Lines

namespace TypedClient

/-- A file to be written: its path, its new text, and the text it has now, if it has one. -/
structure FileChange where
  path : String
  content : String
  existing : Option String
  deriving DecidableEq, Repr

/-- How many files were new, changed and already as planned. -/
structure WriteSummary where
  created : Nat := 0
  updated : Nat := 0
  unchanged : Nat := 0
  deriving DecidableEq, Repr

namespace FileChange

/-- Whether there is no text yet. -/
def isNew (change : FileChange) : Bool := change.existing.isNone

/-- Whether there is another text. -/
def isModified (change : FileChange) : Bool :=
  change.existing.any (· ≠ change.content)

/-- The difference between the text on disk and the new one, for a file that is modified. -/
def difference? (change : FileChange) : Option String :=
  match change.existing with
  | none => none
  | some existing =>
    if existing = change.content then none
    else
      let text := Diff.unified (change.path ++ " (on disk)") (change.path ++ " (generated)")
        existing change.content
      some (String.join ((Text.lines text).map (· ++ "\n")))

/-- What writing the files would do: the names of new ones and the differences of modified ones. -/
def preview (changes : List FileChange) : String :=
  String.join (changes.map fun change =>
    if change.isNew then "create " ++ change.path ++ "\n" else change.difference?.getD "")

section

variable {m : Type → Type} [Monad m] [FileAccess m]

/-- Plans a file. -/
def plan (path content : String) : m FileChange := do
  match ← FileAccess.read path with
  | .ok existing => pure ⟨path, content, some existing⟩
  | .error _ => pure ⟨path, content, none⟩

/-- Writes a file that is new or modified, and makes its directory. -/
def apply (change : FileChange) (summary : WriteSummary) : ExceptT String m WriteSummary := do
  if !change.isNew && !change.isModified then
    return { summary with unchanged := summary.unchanged + 1 }
  if let some directory := Path.parent? change.path then
    if let .error cause ← FileAccess.makeDirectories (m := m) directory then
      throw s!"Failed to create {directory}: {cause.message}"
  if let .error cause ← FileAccess.write (m := m) change.path change.content then
    throw s!"Failed to write {change.path}: {cause.message}"
  if change.isNew then return { summary with created := summary.created + 1 }
  else return { summary with updated := summary.updated + 1 }

/-- Writes files in order up to the first failure. -/
def applyAll : List FileChange → WriteSummary → ExceptT String m WriteSummary
  | [], summary => pure summary
  | change :: rest, summary => do applyAll rest (← change.apply summary)

end

end FileChange

end TypedClient
