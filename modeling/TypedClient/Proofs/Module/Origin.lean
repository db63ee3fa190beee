/-
# Origins of lines

A module is built by additions, in any order and with whatever blocks: empty ones, blank ones, and
blocks that begin or end with line feeds. Its text then consists of lines that were written for a
unit, and of lines that belong to none: the separators and the lines of other blocks.

The module itself keeps no lines. It counts line feeds, and it foretells the separator in front of a
unit from how the text ends. The central fact is that this comes to the same: a line is traced to
the unit that it was written for, and the span of a unit holds the lines of its block. Here each
line is written down with its owner, one addition after the other, and what is counted is compared
with what is written.
-/

import TypedClient.Proofs.Module.Lines
import TypedClient.Proofs.Module.Spans

namespace TypedClient

/-- What can be added to a module: a block that belongs to no unit, or a unit. -/
inductive Addition where
  | raw (block : String)
  | unit (name block : String)

namespace Addition

/-- The name and the block of a unit. -/
def unit? : Addition → Option (String × String)
  | .raw _ => none
  | .unit name block => some (name, block)

end Addition

namespace Module

/-- Adds a block or a unit. -/
def add (module : Module) : Addition → Module
  | .raw block => module.addRaw block
  | .unit name block => module.addUnit name block

/-- The module that additions make, one after the other. -/
def build (name : String) (kind : ModuleKind) (additions : List Addition) : Module :=
  additions.foldl add (start name kind)

/-- The lines of a block without the line feeds at its end; an empty block has one line. -/
def blockLines (block : String) : List (List Char) :=
  Text.splitOn (· == '\n') (Text.dropEndWhile (· == '\n') block.toList)

end Module

/-- A line with the name of the unit that it was written for, if there is one. -/
structure OwnedLine where
  text : List Char
  owner? : Option String

namespace OwnedLine

/-! ## Lines with their owners -/

/-- The blank line in front of the next block. There is none at the start of a module, nor behind a
blank line that is not the first one. -/
def gap (lines : List OwnedLine) : List OwnedLine :=
  match lines.reverse with
  | [] => []
  | last :: others => if last.text.isEmpty && !others.isEmpty then [] else [⟨[], none⟩]

/-- The lines with those of a block put after them. -/
def write (lines : List OwnedLine) (owner? : Option String) (block : String) : List OwnedLine :=
  lines ++ gap lines ++ (Module.blockLines block).map (⟨·, owner?⟩)

/-- The lines with those of an addition put after them; a blank block that is no unit is left
out. -/
def add (lines : List OwnedLine) : Addition → List OwnedLine
  | .raw block => if Text.isBlank block then lines else write lines none block
  | .unit name block => write lines (some name) block

/-- The lines that additions make, one after the other. -/
def build (additions : List Addition) : List OwnedLine :=
  additions.foldl add []

/-- The owner of a line, counted from one. -/
def ownerAt? (lines : List OwnedLine) : (line : Nat) → Option String
  | 0 => none
  | place + 1 => lines[place]?.bind (·.owner?)

variable {lines more : List OwnedLine} {owner? : Option String} {block : String} {line : Nat}

theorem ownerAt?_of_length_lt (beyond : lines.length < line) : ownerAt? lines line = none := by
  obtain ⟨place, rfl⟩ := Nat.exists_eq_add_one.mpr (Nat.zero_lt_of_lt beyond)
  rw [ownerAt?, List.getElem?_eq_none (Nat.le_of_lt_succ beyond), Option.bind_none]

theorem ownerAt?_append_left (within : line ≤ lines.length) :
    ownerAt? (lines ++ more) line = ownerAt? lines line := by
  cases line with
  | zero => rfl
  | succ place => rw [ownerAt?, ownerAt?, List.getElem?_append_left within]

theorem ownerAt?_append_right (beyond : lines.length < line) :
    ownerAt? (lines ++ more) line = ownerAt? more (line - lines.length) := by
  obtain ⟨place, rfl⟩ := Nat.exists_eq_add_one.mpr (Nat.zero_lt_of_lt beyond)
  rw [Nat.succ_sub (Nat.le_of_lt_succ beyond), ownerAt?, ownerAt?,
    List.getElem?_append_right (Nat.le_of_lt_succ beyond)]

theorem ownerAt?_eq_none (free : ∀ other ∈ lines, other.owner? = none) :
    ownerAt? lines line = none := by
  cases line with
  | zero => rfl
  | succ place =>
    rw [ownerAt?, Option.bind_eq_none_iff]
    exact fun other isLine => free other (List.mem_of_getElem? isLine)

theorem eq_of_mem_gap {other : OwnedLine} (inGap : other ∈ gap lines) : other = ⟨[], none⟩ := by
  unfold gap at inGap
  split at inGap
  · cases inGap
  · split at inGap
    · cases inGap
    · exact List.mem_singleton.mp inGap

theorem length_write : (write lines owner? block).length =
    (lines ++ gap lines).length + (Module.blockLines block).length := by
  rw [write, List.length_append, List.length_map]

/-- A block that is written changes no owner above it, and the last lines are its own. -/
theorem ownerAt?_write : ownerAt? (write lines owner? block) line = (ownerAt? lines line).or
    (if (lines ++ gap lines).length < line ∧ line ≤ (write lines owner? block).length then owner?
      else none) := by
  rw [length_write]
  rcases Nat.lt_or_ge (lines ++ gap lines).length line with below | above
  · have beyond : lines.length < line := by
      rw [List.length_append] at below
      omega
    obtain ⟨place, isPlace⟩ := Nat.exists_eq_add_one.mpr (Nat.sub_pos_of_lt below)
    rw [ownerAt?_of_length_lt beyond, Option.none_or, write, ownerAt?_append_right below, isPlace,
      ownerAt?, List.getElem?_map]
    by_cases within : place < (Module.blockLines block).length
    · rw [List.getElem?_eq_getElem within, if_pos ⟨below, by omega⟩]
      rfl
    · rw [List.getElem?_eq_none (Nat.le_of_not_lt within), if_neg (by omega)]
      rfl
  · rw [write, ownerAt?_append_left above, if_neg (by omega), Option.or_none]
    rcases Nat.lt_or_ge lines.length line with inGap | within
    · rw [ownerAt?_append_right inGap, ownerAt?_of_length_lt inGap]
      exact ownerAt?_eq_none fun other isGap => by rw [eq_of_mem_gap isGap]
    · exact ownerAt?_append_left within

end OwnedLine

namespace Module

open OwnedLine (gap write ownerAt?)

variable {module : Module} {lines : List OwnedLine}

/-! ## Text and lines -/

/-- The text of some lines. -/
def textOf (lines : List OwnedLine) : List Char :=
  Text.joinLines (lines.map (·.text))

theorem textOf_append (first second : List OwnedLine) :
    textOf (first ++ second) = textOf first ++ textOf second := by
  rw [textOf, List.map_append, Text.joinLines_append]
  rfl

/-- A text of lines goes on at the line after them. -/
theorem nextLine_textOf (noFeed : ∀ line ∈ lines, '\n' ∉ line.text) :
    nextLine (textOf lines) = lines.length + 1 := by
  have pieces : Text.splitOn (· == '\n') (textOf lines) = lines.map (·.text) ++ [[]] :=
    Text.splitOn_joinLines (by simpa using noFeed)
  rw [nextLine, ← Text.length_splitOn_newline, pieces]
  simp

/-- How the text ends tells whether a blank line is written. -/
theorem separator_textOf (noFeed : ∀ line ∈ lines, '\n' ∉ line.text) :
    separator (textOf lines) = textOf (gap lines) := by
  rcases List.eq_nil_or_concat lines with rfl | ⟨others, last, isConcat⟩
  · rfl
  · rw [List.concat_eq_append] at isConcat
    have isGap : gap lines =
        if last.text.isEmpty && !others.isEmpty then [] else [⟨[], none⟩] := by
      rw [gap, isConcat, List.reverse_concat]
      simp
    have isText : textOf lines = textOf others ++ (last.text ++ ['\n']) := by
      rw [isConcat, textOf_append]
      simp [textOf]
    rw [isGap, isText]
    rcases List.eq_nil_or_concat last.text with isEmpty | ⟨front, c, isLine⟩
    · rcases List.eq_nil_or_concat others with rfl | ⟨before, previous, rfl⟩
      · rw [isEmpty]
        rfl
      · -- The line above ends in a line feed too.
        rw [isEmpty, List.concat_eq_append, textOf_append]
        simp [separator, textOf]
    · rw [List.concat_eq_append] at isLine
      have notFeed : c ≠ '\n' := by
        rintro rfl
        refine noFeed last ?_ ?_
        · rw [isConcat]
          exact List.mem_append_right _ List.mem_cons_self
        · rw [isLine]
          exact List.mem_append_right _ List.mem_cons_self
      simp [separator, isLine, notFeed, textOf]

theorem closeBlock_eq_joinLines (block : String) :
    closeBlock block.toList = Text.joinLines (blockLines block) := by
  have nonempty : blockLines block ≠ [] := by
    refine List.ne_nil_of_length_pos ?_
    rw [blockLines, Text.length_splitOn_newline]
    exact Nat.succ_pos _
  rw [← Text.intercalate_append_newline nonempty, blockLines, Text.intercalate_splitOn_newline,
    closeBlock]

/-- Putting a block after a text writes its lines after those of the text. -/
theorem appendBlock_textOf (noFeed : ∀ line ∈ lines, '\n' ∉ line.text) (owner? : Option String)
    (block : String) :
    appendBlock (textOf lines) block.toList = textOf (write lines owner? block) := by
  have isBlock : textOf ((blockLines block).map (⟨·, owner?⟩)) = closeBlock block.toList := by
    rw [textOf, List.map_map, closeBlock_eq_joinLines]
    exact congrArg _ (List.map_id _)
  rw [appendBlock, separator_textOf noFeed, write, textOf_append, textOf_append, isBlock]

theorem noFeed_write (noFeed : ∀ line ∈ lines, '\n' ∉ line.text) (owner? : Option String)
    (block : String) : ∀ line ∈ write lines owner? block, '\n' ∉ line.text := by
  have inGap : ∀ line ∈ gap lines, '\n' ∉ line.text := by
    intro line isGap
    rw [OwnedLine.eq_of_mem_gap isGap]
    exact List.not_mem_nil
  have inBlock : ∀ line ∈ (blockLines block).map (OwnedLine.mk · owner?), '\n' ∉ line.text := by
    refine List.forall_mem_map.mpr fun piece isPiece => ?_
    exact Text.noFeed_of_mem_splitOn isPiece
  exact List.forall_mem_append.mpr ⟨List.forall_mem_append.mpr ⟨noFeed, inGap⟩, inBlock⟩

/-! ## What additions preserve -/

/-- A line of a new unit is traced to it, unless an earlier unit has it. -/
theorem unitAt?_addUnit (module : Module) (name block : String) (line : Nat) :
    (module.addUnit name block).unitAt? line = (module.unitAt? line).or
      (if nextLine module.text.toList + pendingLines module.text.toList ≤ line ∧
          line ≤ nextLine (appendBlock module.text.toList block.toList) - 1 then some name
        else none) := by
  let before := module.text.toList
  let added : UnitSpan :=
    ⟨name, nextLine before + pendingLines before, nextLine (appendBlock before block.toList) - 1⟩
  have areUnits : (module.addUnit name block).units = module.units ++ [added] := rfl
  have ofAdded : ([added].find? fun unit => unit.startLine ≤ line && line ≤ unit.endLine).map
      (·.name) = if added.startLine ≤ line ∧ line ≤ added.endLine then some name else none := by
    by_cases covers : added.startLine ≤ line ∧ line ≤ added.endLine
    · simp [covers, added]
    · simp [covers]
  rw [unitAt?, areUnits, List.find?_append, Option.map_or, ofAdded]
  rfl

/-- A module shows lines: its text consists of them, and each of them is traced to its owner. -/
structure Shows (module : Module) (lines : List OwnedLine) : Prop where
  isText : module.text.toList = textOf lines
  noFeed : ∀ line ∈ lines, '\n' ∉ line.text
  traced : ∀ line, module.unitAt? line = ownerAt? lines line

namespace Shows

theorem start (name : String) (kind : ModuleKind) : Shows (Module.start name kind) [] :=
  ⟨rfl, List.forall_mem_nil _, fun line => by cases line <;> rfl⟩

theorem addRaw (shows : Shows module lines) (block : String) :
    Shows (module.addRaw block) (OwnedLine.add lines (.raw block)) := by
  rw [Module.addRaw, OwnedLine.add]
  by_cases blank : Text.isBlank block = true
  · rwa [if_pos blank, if_pos blank]
  · rw [if_neg blank, if_neg blank]
    refine ⟨?_, noFeed_write shows.noFeed none block, fun line => ?_⟩
    · rw [String.toList_ofList, shows.isText]
      exact appendBlock_textOf shows.noFeed none block
    · rw [OwnedLine.ownerAt?_write, ite_self, Option.or_none]
      exact shows.traced line

/-- The span of a unit begins below the lines written so far and the blank line, and it ends with
the last line written. -/
theorem addUnit (shows : Shows module lines) (name block : String) :
    Shows (module.addUnit name block) (OwnedLine.add lines (.unit name block)) := by
  let before := module.text.toList
  let written := write lines (some name) block
  have isText : appendBlock before block.toList = textOf written := by
    rw [← appendBlock_textOf shows.noFeed, ← shows.isText]
  have noFeed : ∀ line ∈ written, '\n' ∉ line.text := noFeed_write shows.noFeed (some name) block
  have starts : nextLine before + pendingLines before = (lines ++ gap lines).length + 1 := by
    have noFeedGap : ∀ line ∈ lines ++ gap lines, '\n' ∉ line.text := fun line member =>
      noFeed line (List.mem_append_left _ member)
    rw [← nextLine_textOf noFeedGap, textOf_append, ← separator_textOf shows.noFeed,
      ← shows.isText, nextLine_append_separator]
  have ends : nextLine (appendBlock before block.toList) - 1 = written.length := by
    rw [isText, nextLine_textOf noFeed, Nat.add_sub_cancel]
  refine ⟨String.toList_ofList.trans isText, noFeed, fun line => ?_⟩
  rw [unitAt?_addUnit, shows.traced, starts, ends]
  exact OwnedLine.ownerAt?_write.symm

end Shows

/-! ## Modules made of additions -/

/-- The units among additions, with their blocks. -/
def unitsOf (additions : List Addition) : List (String × String) :=
  additions.filterMap Addition.unit?

theorem unitsOf_append (first second : List Addition) :
    unitsOf (first ++ second) = unitsOf first ++ unitsOf second :=
  List.filterMap_append

/-- A module keeps track of additions: its units stand in order, each on the lines of its block, and
the text shows the lines that the additions wrote. -/
structure Tracks (module : Module) (additions : List Addition) : Prop where
  inOrder : module.InOrder
  holds : Holds module ((unitsOf additions).map fun unit =>
    (unit.1, Text.dropEndWhile (· == '\n') unit.2.toList))
  shows : Shows module (OwnedLine.build additions)

namespace Tracks

variable {additions : List Addition}

theorem start (name : String) (kind : ModuleKind) : Tracks (Module.start name kind) [] :=
  ⟨.start name kind, .start name kind, .start name kind⟩

theorem add (tracks : Tracks module additions) (addition : Addition) :
    Tracks (module.add addition) (additions ++ [addition]) := by
  have written : OwnedLine.build (additions ++ [addition]) =
      OwnedLine.add (OwnedLine.build additions) addition := by
    rw [OwnedLine.build, List.foldl_append]
    rfl
  have units : unitsOf (additions ++ [addition]) = unitsOf additions ++ unitsOf [addition] :=
    unitsOf_append additions [addition]
  cases addition with
  | raw block =>
    refine ⟨tracks.inOrder.addRaw block, ?_, written ▸ tracks.shows.addRaw block⟩
    have noUnit : unitsOf [Addition.raw block] = [] := rfl
    rw [units, noUnit, List.append_nil]
    exact tracks.holds.addRaw block
  | unit name block =>
    refine ⟨tracks.inOrder.addUnit name block, ?_, written ▸ tracks.shows.addUnit name block⟩
    rw [units, List.map_append]
    exact tracks.holds.addUnit name block

/-- What each addition preserves is preserved by all of them. -/
theorem run (tracks : Tracks module additions) (more : List Addition) :
    Tracks (more.foldl Module.add module) (additions ++ more) := by
  induction more generalizing module additions with
  | nil => rwa [List.append_nil]
  | cons addition rest ih =>
    have next := ih (tracks.add addition)
    rwa [List.append_assoc, List.singleton_append] at next

end Tracks

theorem tracks_build (name : String) (kind : ModuleKind) (additions : List Addition) :
    Tracks (build name kind additions) additions :=
  (Tracks.start name kind).run additions

/-- The spans of a module are exact for the additions that it is made of. -/
structure SpansExact (module : Module) (additions : List Addition) : Prop where
  /-- The text consists of the lines that were written, each with its line feed. -/
  isText : module.text.toList = textOf (OwnedLine.build additions)
  /-- Each unit that was added has one span, in the same order, and its lines are those of its
  block. -/
  holdsBlock : List.Forall₂
    (fun span unit => span.name = unit.1 ∧ module.unitLines span = blockLines unit.2)
    module.units (unitsOf additions)
  /-- Every span ends before the next one starts. -/
  inOrder : module.InOrder
  /-- A line is traced to the unit that it was written for. -/
  traced : ∀ line, module.unitAt? line = ownerAt? (OwnedLine.build additions) line
  /-- This is the unit whose span the line lies in. -/
  covered : ∀ line name, module.unitAt? line = some name ↔
    ∃ span ∈ module.units, span.name = name ∧ span.Covers line

theorem Tracks.spansExact {additions : List Addition} (tracks : Tracks module additions) :
    SpansExact module additions := by
  refine ⟨tracks.shows.isText, ?_, tracks.inOrder, tracks.shows.traced, fun _ _ =>
    tracks.inOrder.unitAt?_eq_some_iff⟩
  refine (List.forall₂_map_right_iff.mp tracks.holds).imp fun span unit => ?_
  rintro ⟨isNamed, occupies⟩
  exact ⟨isNamed, occupies.unitLines_eq⟩

/-- Spans are exact whatever was added before and after them. Every module that is made of additions
holds on the lines of each span the block of its unit and nothing else, the spans stand in the order
of the additions and apart, and a line is traced to a unit exactly if it was written for it. -/
theorem build_spansExact (name : String) (kind : ModuleKind) (additions : List Addition) :
    SpansExact (build name kind additions) additions :=
  (tracks_build name kind additions).spansExact

/-- An empty unit takes a line, and line feeds at the beginning of a block belong to its unit. -/
example : (build "api.ts" .requests
    [.unit "first" "", .raw "imports", .unit "second" "\n\nbody\n\n", .raw " \n"]).units =
      [⟨"first", 1, 1⟩, ⟨"second", 5, 7⟩] := by
  decide

/-! ## Generated modules -/

theorem unitsOf_map_unit {α : Type} (items : List α) (name block : α → String) :
    unitsOf (items.map fun item => .unit (name item) (block item)) =
      items.map fun item => (name item, block item) := by
  rw [unitsOf, List.filterMap_map]
  exact congrFun List.filterMap_eq_map items

/-- The spans of a declarations module are exact, and its definitions are the units. -/
theorem spansExact_declarations (name : String) (definitions : List Definition)
    (language : Language) : ∃ additions,
      unitsOf additions = definitions.map (fun definition =>
        (definition.name, definition.emit language)) ∧
      SpansExact (declarations name definitions language) additions := by
  let units := definitions.map fun definition =>
    Addition.unit definition.name (definition.emit language)
  have tracks := ((Tracks.start name .declarations).add (.raw preamble)).run units
  rw [List.foldl_map] at tracks
  have areUnits : unitsOf ([.raw preamble] ++ units) = definitions.map fun definition =>
      (definition.name, definition.emit language) :=
    unitsOf_map_unit definitions (·.name) (·.emit language)
  unfold declarations
  split
  · refine ⟨_, ?_, (tracks.add (.raw _)).spansExact⟩
    rw [List.nil_append, unitsOf_append, areUnits]
    exact List.append_nil _
  · exact ⟨_, areUnits, tracks.spansExact⟩

/-- The spans of a request module are exact, and its functions are the units. -/
theorem spansExact_requests (name : String) (functions : List RequestFunction)
    (language : Language) (header path : String) (aliases : Naming.Aliases) : ∃ additions,
      unitsOf additions = functions.map (fun function => (function.name, function.text)) ∧
      SpansExact (requests name functions language header path aliases) additions := by
  let imports := RequestFunction.importBlock (RequestFunction.allImports functions) language path
    aliases
  have tracks := (Tracks.start name .requests).run
    ([.raw preamble, .raw header, .raw imports] ++
      functions.map fun function => .unit function.name function.text)
  rw [List.foldl_append, List.foldl_map] at tracks
  refine ⟨_, ?_, tracks.spansExact⟩
  exact unitsOf_map_unit functions (·.name) (·.text)

end Module

end TypedClient
