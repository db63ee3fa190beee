/-
# Paths of files

Paths are texts whose parts are separated by slashes. Empty parts and single dots count for
nothing, save that a leading slash starts at the root.
-/

import TypedClient.Text.Lines

namespace TypedClient.Path

/-- Whether a path starts at the root. -/
def isAbsolute (path : String) : Bool := path.toList.head? = some '/'

/-- The parts of a path, empty ones included. -/
def parts (path : String) : List String :=
  (Text.splitOn (· = '/') path.toList).map String.ofList

/-- A path continued by another one. -/
def join (base name : String) : String :=
  if isAbsolute name then name
  else if base = "" || Text.endsWith base "/" then base ++ name
  else base ++ "/" ++ name

/-- The reverse of a path without the slashes and dots at its end that count for nothing. -/
def trimReversed : List Char → List Char
  | ['/'] => ['/']
  | '/' :: rest => trimReversed rest
  | '.' :: '/' :: rest => trimReversed ('/' :: rest)
  | rest => rest

/-- The path of the directory that holds what a path names; nothing for the root and for no path at
all. -/
def parent? (path : String) : Option String :=
  match trimReversed path.toList.reverse with
  | [] | ['/'] => none
  | reversed => some (String.ofList (trimReversed (reversed.dropWhile (· ≠ '/'))).reverse)

end TypedClient.Path
