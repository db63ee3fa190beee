/-
# TOML documents as trees

A document that is edited keeps what a reader of the file would miss: the spelling of keys, the
blanks and comments around keys, values and headers, and the order of all of these. A part that was
not read from a text has no such surroundings and is laid out in the usual way.
-/

import TypedClient.Json.Basic

namespace TypedClient.Toml

/-- The text before and after a part of a document, absent where it was not read from a text. -/
structure Decor where
  before : Option String := none
  after : Option String := none
  deriving DecidableEq, Repr, Inhabited

/-- A text in its surroundings, with defaults where there are none. -/
def Decor.wrap (decor : Decor) (before after text : String) : String :=
  decor.before.getD before ++ text ++ decor.after.getD after

/-- A key: its name, its spelling, and what surrounds it as the last key of a path and as an earlier
one. -/
structure Key where
  name : String
  written : Option String := none
  leaf : Decor := {}
  dotted : Decor := {}
  deriving DecidableEq, Repr, Inhabited

/-- The spelling of a key. A key that was not read from a text is a bare one. -/
def Key.text (key : Key) : String := key.written.getD key.name

/-- What is known of a table besides its entries. -/
structure TableHead where
  /-- What surrounds its header. -/
  decor : Decor := {}
  /-- Whether only the headers or keys of other tables mention it. -/
  implicit : Bool := false
  /-- Whether it stands for the first part of dotted keys. -/
  dotted : Bool := false
  /-- The number of its header in the text. -/
  position : Option Nat := none
  deriving DecidableEq, Repr, Inhabited

/-- What a key of a document holds. -/
inductive Item where
  /-- A value as it is written, with what it stands for. -/
  | value (decor : Decor) (text : String) (data : Json)
  /-- A table in braces. Padding is the blank text of one that was read without entries. -/
  | inlineTable (dotted : Bool) (decor : Decor) (padding : String) (entries : List (Key × Item))
  | table (head : TableHead) (entries : List (Key × Item))
  /-- The tables of an array, each with a header of its own. -/
  | tables (elements : List (TableHead × List (Key × Item)))
  deriving Inhabited

/-- The keys of a table with what they hold, in order; names are distinct. -/
abbrev Entries := List (Key × Item)

/-- A document: its entries and the blank text and comments after them. -/
structure Document where
  entries : Entries := []
  trailing : String := ""
  deriving Inhabited

mutual

/-- What an item stands for. -/
def Item.data : Item → Json
  | .value _ _ data => data
  | .inlineTable _ _ _ entries => .object (entriesData entries)
  | .table _ entries => .object (entriesData entries)
  | .tables elements => .array (elementsData elements)

/-- What entries stand for. -/
def entriesData : List (Key × Item) → List (String × Json)
  | [] => []
  | (key, item) :: rest => (key.name, item.data) :: entriesData rest

/-- What the tables of an array stand for. -/
def elementsData : List (TableHead × List (Key × Item)) → List Json
  | [] => []
  | (_, entries) :: rest => .object (entriesData entries) :: elementsData rest

end

/-- What a document stands for. -/
def Document.data (document : Document) : Json :=
  .object (entriesData document.entries)

namespace Item

/-- Whether an item is a table with entries that can be set. -/
def isTable : Item → Bool
  | .inlineTable _ _ _ _ | .table _ _ => true
  | _ => false

/-- The entries of a table. -/
def entries : Item → Entries
  | .inlineTable _ _ _ entries | .table _ entries => entries
  | _ => []

/-- A table with its entries changed; another item stays as it is. -/
def mapEntries (change : Entries → Entries) : Item → Item
  | .inlineTable dotted decor padding entries =>
    .inlineTable dotted decor padding (change entries)
  | .table head entries => .table head (change entries)
  | item => item

end Item

namespace Entries

/-- What a name holds. -/
def find? (name : String) (entries : Entries) : Option Item :=
  (List.find? (fun entry => entry.1.name == name) entries).map (·.2)

/-- Changes what a name holds, under the key that it has. -/
def update (name : String) (change : Item → Item) (entries : Entries) : Entries :=
  entries.map fun (key, item) => (key, if key.name = name then change item else item)

/-- Sets what a name holds: a key that is there keeps its place and spelling, a new key goes last.
-/
def set (name : String) (item : Item) (entries : Entries) : Entries :=
  if (find? name entries).isSome then update name (fun _ => item) entries
  else entries ++ [(({ name := name } : Key), item)]

/-- Removes a name. -/
def erase (name : String) (entries : Entries) : Entries :=
  entries.filter fun entry => entry.1.name ≠ name

/-- Makes a name hold a table. Anything else that it holds gives way to an empty table, whose key
loses its spelling and surroundings. -/
def openTable (name : String) (entries : Entries) : Entries :=
  match find? name entries with
  | some item =>
    if item.isTable then entries
    else entries.map fun (key, old) =>
      if key.name = name then ({ name }, .table {} []) else (key, old)
  | none => entries ++ [({ name }, .table {} [])]

end Entries

end TypedClient.Toml
