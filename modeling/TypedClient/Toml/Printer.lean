/-
# Printing TOML documents

The text of a document tree. A table prints its values, those of dotted keys included, under its
header; tables with a header of their own follow. Tables are printed in the order of their headers
in the text that was read, and a table that has none follows the table before it in the tree.
-/

import TypedClient.Toml.Tree

namespace TypedClient.Toml

/-- A path of keys. What surrounds it is what surrounds its last key. -/
def pathText (before after : String) (path : List Key) : String :=
  let leaf := (path.getLast?.map (·.leaf)).getD {}
  let parts := path.mapIdx fun i key =>
    let start := if i = 0 then "" else key.dotted.before.getD ""
    let finish := if i + 1 = path.length then "" else key.dotted.after.getD ""
    start ++ key.text ++ finish
  leaf.wrap before after (String.intercalate "." parts)

/-- A value under a path of keys, ready to be printed. -/
structure ValueLine where
  path : List Key
  decor : Decor
  text : String

/-- The values of a table in braces. -/
def inlineValues : List ValueLine → List String
  | [] => []
  | line :: rest =>
    let after := if rest.isEmpty then " " else ""
    (pathText " " " " line.path ++ "=" ++ line.decor.wrap " " after line.text) ::
      inlineValues rest

/-- A table in braces. -/
def inlineText (lines : List ValueLine) (padding : String) : String :=
  "\x7b" ++ String.intercalate "," (inlineValues lines) ++ padding ++ "\x7d"

mutual

/-- The values that an entry prints under the header of the table it is in. -/
def Item.valueLines (path : List Key) (key : Key) : Item → List ValueLine
  | .value decor text _ => [⟨path ++ [key], decor, text⟩]
  | .inlineTable dotted decor padding entries =>
    if dotted then entryLines (path ++ [key]) entries
    else [⟨path ++ [key], decor, inlineText (entryLines [] entries) padding⟩]
  | .table head entries => if head.dotted then entryLines (path ++ [key]) entries else []
  | .tables _ => []

/-- The values that entries print under the header of their table, below a path. -/
def entryLines (path : List Key) : List (Key × Item) → List ValueLine
  | [] => []
  | (key, item) :: rest => item.valueLines path key ++ entryLines path rest

end

/-- A table with a header of its own. -/
structure Section where
  path : List Key
  head : TableHead
  /-- Whether it is one of an array. -/
  isElement : Bool
  lines : List ValueLine

mutual

/-- The tables with headers that an entry holds: itself and those in it. -/
def Item.sections (path : List Key) (key : Key) : Item → List Section
  | .table head entries =>
    let here :=
      if head.dotted then [] else [Section.mk (path ++ [key]) head false (entryLines [] entries)]
    here ++ entrySections (path ++ [key]) entries
  | .tables elements => elementSections (path ++ [key]) elements
  | _ => []

/-- The tables with headers among entries, in the order of the tree. -/
def entrySections (path : List Key) : List (Key × Item) → List Section
  | [] => []
  | (key, item) :: rest => item.sections path key ++ entrySections path rest

/-- The tables of an array, each followed by the tables in it. -/
def elementSections (path : List Key) : List (TableHead × List (Key × Item)) → List Section
  | [] => []
  | (head, entries) :: rest =>
    Section.mk path head true (entryLines [] entries) :: entrySections path entries ++
      elementSections path rest

end

/-- Gives each table its place: the number of its header, or of the one before it. -/
def place : (last : Nat) → List Section → List (Nat × Section)
  | _, [] => []
  | last, entry :: rest =>
    let position := entry.head.position.getD last
    (position, entry) :: place position rest

/-- The lines of values. -/
def linesText (lines : List ValueLine) : String :=
  String.join (lines.map fun line =>
    pathText "" " " line.path ++ "=" ++ line.decor.wrap " " "" line.text ++ "\n")

namespace Section

/-- Whether a table prints its header. One that is only mentioned does so if it has values. -/
def hasHeader (entry : Section) : Bool :=
  entry.isElement || !entry.head.implicit || !entry.lines.isEmpty

/-- The text of a table. A header that was not read from a text has an empty line before it unless
it is the first. -/
def text (first : Bool) (entry : Section) : String :=
  let path := pathText "" "" entry.path
  let header := if entry.isElement then "[[" ++ path ++ "]]" else "[" ++ path ++ "]"
  (if entry.hasHeader then entry.head.decor.wrap (if first then "" else "\n") "" header ++ "\n"
    else "") ++ linesText entry.lines

end Section

/-- The texts of tables in order; `first` tells whether nothing has been printed yet. -/
def sectionsText : (first : Bool) → List Section → String
  | _, [] => ""
  | first, entry :: rest => entry.text first ++ sectionsText (first && !entry.hasHeader) rest

/-- The text of a document. -/
def Document.text (document : Document) : String :=
  let lines := entryLines [] document.entries
  let placed := (place 0 (entrySections [] document.entries)).mergeSort fun a b => a.1 ≤ b.1
  linesText lines ++ sectionsText lines.isEmpty (placed.map (·.2)) ++ document.trailing

end TypedClient.Toml
