/-
# Generated modules

A module is built block by block. Blocks are set apart by a blank line, and a block that is a unit
of its own, a declaration or a function, is recorded with the lines it occupies, so that a complaint
about a line can be traced to its unit.
-/

import TypedClient.Text.Lines

namespace TypedClient

/-- What a module holds. -/
inductive ModuleKind where
  | declarations
  | requests
  deriving DecidableEq, Repr

/-- The lines of a unit, counted from one, both ends included. -/
structure UnitSpan where
  name : String
  startLine : Nat
  endLine : Nat
  deriving DecidableEq, Repr

/-- A generated module. -/
structure Module where
  /-- The file name. -/
  name : String
  kind : ModuleKind
  text : String
  /-- The units in order. -/
  units : List UnitSpan
  deriving Repr

namespace Module

/-- The name of the unit that a line belongs to. -/
def unitAt? (module : Module) (line : Nat) : Option String :=
  (module.units.find? fun unit => unit.startLine ≤ line && line ≤ unit.endLine).map (·.name)

/-- The names of the units. -/
def unitNames (module : Module) : List String :=
  module.units.map (·.name)

/-- A module without text. -/
def start (name : String) (kind : ModuleKind) : Module :=
  { name, kind, text := "", units := [] }

/-- The line that the next character would stand on. -/
def nextLine (text : List Char) : Nat :=
  text.count '\n' + 1

/-- The line feeds that set the next block apart from the text before it. -/
def separator (text : List Char) : List Char :=
  match text.reverse with
  | [] => []
  | '\n' :: '\n' :: _ => []
  | '\n' :: _ => ['\n']
  | _ => ['\n', '\n']

/-- The number of line feeds that will set the next block apart, foretold from how the text ends. -/
def pendingLines (text : List Char) : Nat :=
  if text.isEmpty || ['\n', '\n'].isSuffixOf text then 0
  else if ['\n'].isSuffixOf text then 1
  else 2

/-- The separator is as long as foretold. -/
theorem separator_eq_replicate (text : List Char) :
    separator text = List.replicate (pendingLines text) '\n' := by
  unfold separator
  split
  · rename_i isEmpty
    rw [List.reverse_eq_nil_iff.mp isEmpty]
    rfl
  · rename_i rest ends
    simp [pendingLines, List.isSuffixOf, ends]
  · rename_i rest notTwo ends
    have nonempty : text ≠ [] := fun isEmpty => by simp [isEmpty] at ends
    have noMore : ¬ ['\n'] <+: rest := fun ⟨tail, isRest⟩ => notTwo tail isRest.symm
    simp [pendingLines, List.isSuffixOf, ends, nonempty, noMore]
  · rename_i hasChars _ notOne
    have nonempty : text ≠ [] := fun isEmpty => hasChars (by rw [isEmpty]; rfl)
    have none : ∀ rest, ¬ '\n' :: rest <+: text.reverse := fun rest ⟨tail, isText⟩ =>
      notOne (rest ++ tail) isText.symm
    simp [pendingLines, List.isSuffixOf, nonempty, none]

/-- The line that the next block starts on is the one reckoned for it. -/
theorem nextLine_append_separator (text : List Char) :
    nextLine (text ++ separator text) = nextLine text + pendingLines text := by
  rw [separator_eq_replicate, nextLine, nextLine, List.count_append, List.count_replicate_self]
  omega

/-- A block without the line feeds at its end, and with one. -/
def closeBlock (block : List Char) : List Char :=
  Text.dropEndWhile (· == '\n') block ++ ['\n']

/-- Text with a block put after it. -/
def appendBlock (text block : List Char) : List Char :=
  text ++ separator text ++ closeBlock block

/-- Adds a block that belongs to no unit; a blank one is left out. -/
def addRaw (module : Module) (block : String) : Module :=
  if Text.isBlank block then module
  else { module with text := String.ofList (appendBlock module.text.toList block.toList) }

/-- Adds a unit. The blank line that may stand before it belongs to no unit. -/
def addUnit (module : Module) (name block : String) : Module :=
  let before := module.text.toList
  let after := appendBlock before block.toList
  { module with
    text := String.ofList after
    units := module.units ++
      [{ name
         startLine := nextLine before + pendingLines before
         endLine := nextLine after - 1 }] }

/-- The lines every module begins with. -/
def preamble : String :=
  "/* eslint-disable */\n// generated by swaggen\n"

end Module

end TypedClient
