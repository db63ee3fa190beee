/-
# Access to files

What a run may do with files, so that a run can be carried out on a tree of files as well as on a
disk.
-/

import TypedClient.Files.Tree

namespace TypedClient

/-- Reading and writing files by path. -/
class FileAccess (m : Type → Type) where
  /-- Whether a path names anything. -/
  holds : String → m Bool
  /-- Whether a path names a file. -/
  isFile : String → m Bool
  /-- The text of a file. -/
  read : String → m (Except FileError String)
  /-- Writes the text of a file. -/
  write : (path content : String) → m (Except FileError Unit)
  /-- Makes a directory and those it is in, as far as they are missing. -/
  makeDirectories : String → m (Except FileError Unit)

namespace FileTree

/-- Carries out a change of a tree; a failure changes nothing. -/
def attempt (change : FileTree → Except FileError FileTree) :
    StateM FileTree (Except FileError Unit) := do
  match change (← get) with
  | .ok changed =>
    set changed
    pure (.ok ())
  | .error error => pure (.error error)

instance : FileAccess (StateM FileTree) where
  holds path := return (← get).holds path
  isFile path := return (← get).isFile path
  read path := return (← get).read path
  write path content := attempt (FileTree.write path content)
  makeDirectories path := attempt (FileTree.makeDirectories path)

end FileTree

end TypedClient
