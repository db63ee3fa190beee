/-
# A tree of files

The files that a run sees, as a value: what each location holds, and the directory that relative
paths start from. Reading and writing a path follow its parts through directories that exist.
-/

import TypedClient.Files.Path

namespace TypedClient

/-- Why a path cannot be read or written. -/
inductive FileError where
  | notFound
  | alreadyExists
  | notADirectory
  | isADirectory
  | notText
  | other (detail : String)
  deriving DecidableEq, Repr

/-- The words for a failure. -/
def FileError.message : FileError → String
  | notFound => "No such file or directory (os error 2)"
  | alreadyExists => "File exists (os error 17)"
  | notADirectory => "Not a directory (os error 20)"
  | isADirectory => "Is a directory (os error 21)"
  | notText => "stream did not contain valid UTF-8"
  | other detail => detail

/-- What a location holds. -/
inductive FileEntry where
  | directory
  | text (content : String)
  /-- A file whose bytes are no text. -/
  | bytes
  deriving DecidableEq, Repr

/-- The names that lead from the root to a place. -/
abbrev Location := List String

/-- Files and directories by location, and the directory that relative paths start from. The root is
always there. -/
structure FileTree where
  entries : List (Location × FileEntry) := []
  workingDirectory : Location := []
  deriving DecidableEq, Repr

namespace FileTree

/-- What a location holds, if anything. -/
def held? (tree : FileTree) (location : Location) : Option FileEntry :=
  if location = [] then some .directory else tree.entries.lookup location

/-- Puts something at a location. -/
def put (location : Location) (entry : FileEntry) (tree : FileTree) : FileTree :=
  { tree with
    entries := (location, entry) :: tree.entries.filter fun other => other.1 ≠ location }

/-- Follows the parts of a path from a location. Every location that is left has to be a directory.
-/
def follow (tree : FileTree) : Location → List String → Except FileError Location
  | location, [] => .ok location
  | location, part :: rest =>
    match tree.held? location with
    | none => .error .notFound
    | some .directory =>
      if part = "" || part = "." then follow tree location rest
      else if part = ".." then follow tree location.dropLast rest
      else follow tree (location ++ [part]) rest
    | some _ => .error .notADirectory

/-- The location that a path names; there need not be anything. -/
def locate (tree : FileTree) (path : String) : Except FileError Location :=
  if path = "" then .error .notFound
  else
    follow tree (if Path.isAbsolute path then [] else tree.workingDirectory) (Path.parts path)

/-- What a path names, if anything. -/
def find? (tree : FileTree) (path : String) : Option FileEntry :=
  match tree.locate path with
  | .ok location => tree.held? location
  | .error _ => none

/-- Whether a path names anything. -/
def holds (tree : FileTree) (path : String) : Bool := (tree.find? path).isSome

/-- Whether a path names a file. -/
def isFile (tree : FileTree) (path : String) : Bool :=
  match tree.find? path with
  | some .directory | none => false
  | some _ => true

/-- The text of a file. -/
def read (tree : FileTree) (path : String) : Except FileError String := do
  match tree.held? (← tree.locate path) with
  | some (.text content) => .ok content
  | some .bytes => .error .notText
  | some .directory => .error .isADirectory
  | none => .error .notFound

/-- Writes the text of a file, in a directory that exists. -/
def write (path content : String) (tree : FileTree) : Except FileError FileTree := do
  let location ← tree.locate path
  if tree.held? location = some .directory then .error .isADirectory
  else .ok (tree.put location (.text content))

/-- Makes a directory, in a directory that exists. -/
def makeDirectory (path : String) (tree : FileTree) : Except FileError FileTree := do
  let location ← tree.locate path
  if (tree.held? location).isSome then .error .alreadyExists
  else .ok (tree.put location .directory)

/-- Makes a directory unless it is there, in a directory that exists. -/
def ensureDirectory (path : String) (tree : FileTree) : Except FileError FileTree :=
  match tree.makeDirectory path with
  | .ok made => .ok made
  | .error error => if tree.find? path = some .directory then .ok tree else .error error

/-- Makes a directory and those it is in, as far as they are missing; `fuel` bounds how many. -/
def makeDirectoriesFrom : (fuel : Nat) → (path : String) → FileTree → Except FileError FileTree
  | 0, _, _ => .error .notFound
  | fuel + 1, path, tree =>
    if path = "" then .ok tree
    else
      match tree.ensureDirectory path with
      | .error .notFound =>
        match Path.parent? path with
        | some above => do ensureDirectory path (← makeDirectoriesFrom fuel above tree)
        | none => .error .notFound
      | result => result

/-- Makes a directory and those it is in, as far as they are missing. -/
def makeDirectories (path : String) (tree : FileTree) : Except FileError FileTree :=
  makeDirectoriesFrom (path.length + 1) path tree

/-- Writes a file, and makes the directories that it is in. -/
def addFile (path content : String) (tree : FileTree) : Except FileError FileTree := do
  let tree ← match Path.parent? path with
    | some directory => tree.makeDirectories directory
    | none => .ok tree
  tree.write path content

/-- The texts of a tree that are not the same in an earlier one. -/
def changedTexts (before after : FileTree) : List (Location × String) :=
  after.entries.filterMap fun (location, entry) =>
    match entry with
    | .text content =>
      if before.held? location = some entry then none else some (location, content)
    | _ => none

end FileTree

end TypedClient
