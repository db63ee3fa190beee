/-
# Units and their texts

A unit adds its name at the end of a module's names, and a block that is no unit adds none. So the
names of a generated module are those of the definitions or functions it was built from, in their
order.

A module records for each unit the lines that it was put on. These lines hold the unit's block and
nothing else, and they go on doing so whatever is added behind them. So a generated module can be
read as the list of its units with their texts, in the order of what it was built from.
-/

import Mathlib.Data.List.Forall2
import TypedClient.Declaration.Emit
import TypedClient.Proofs.Text.Lines
import TypedClient.Request.Function

namespace TypedClient.Module

/-! ## Names of units -/

theorem unitNames_addRaw (module : Module) (block : String) :
    (module.addRaw block).unitNames = module.unitNames := by
  unfold addRaw
  split
  · rfl
  · rfl

theorem unitNames_addUnit (module : Module) (name block : String) :
    (module.addUnit name block).unitNames = module.unitNames ++ [name] := by
  rw [unitNames, addUnit, List.map_append]
  rfl

theorem unitNames_foldl_addUnit {α : Type} (items : List α) (name text : α → String)
    (module : Module) :
    (items.foldl (fun module item => module.addUnit (name item) (text item)) module).unitNames =
      module.unitNames ++ items.map name := by
  induction items generalizing module with
  | nil => simp
  | cons item rest ih => rw [List.foldl_cons, ih, unitNames_addUnit, List.map_cons,
      List.append_assoc, List.singleton_append]

/-- The units of a declarations module are its definitions. -/
theorem unitNames_declarations (name : String) (definitions : List Definition)
    (language : Language) :
    (declarations name definitions language).unitNames = definitions.map (·.name) := by
  have units := unitNames_foldl_addUnit definitions (·.name) (·.emit language)
    ((start name .declarations).addRaw preamble)
  rw [unitNames_addRaw] at units
  unfold declarations
  split
  · rw [unitNames_addRaw]
    exact units
  · exact units

/-- The units of a request module are its functions. -/
theorem unitNames_requests (name : String) (functions : List RequestFunction)
    (language : Language) (header path : String) (aliases : Naming.Aliases) :
    (requests name functions language header path aliases).unitNames =
      functions.map (·.name) := by
  rw [requests, unitNames_foldl_addUnit, unitNames_addRaw, unitNames_addRaw, unitNames_addRaw]
  rfl

/-! ## Texts of units -/

/-- The text on the lines of a unit. -/
def unitText (module : Module) (unit : UnitSpan) : String :=
  let lines := Text.splitOn (· == '\n') module.text.toList
  let ofUnit := (lines.drop (unit.startLine - 1)).take (unit.endLine + 1 - unit.startLine)
  String.ofList (List.intercalate ['\n'] ofUnit)

/-- The lines of a unit. -/
def unitLines (module : Module) (unit : UnitSpan) : List (List Char) :=
  ((Text.splitOn (· == '\n') module.text.toList).drop (unit.startLine - 1)).take
    (unit.endLine + 1 - unit.startLine)

/-- The names of the units with their texts. -/
def unitTexts (module : Module) : List (String × String) :=
  module.units.map fun unit => (unit.name, module.unitText unit)

/-- A block as the text of a unit: without the line feeds at its end. -/
def unitBlock (block : String) : String :=
  String.ofList (Text.dropEndWhile (· == '\n') block.toList)

/-! ## Blocks on lines of their own -/

/-- A block stands in a text on lines of its own, and these are the lines of a unit. -/
structure Occupies (text : List Char) (unit : UnitSpan) (block : List Char) : Prop where
  placed : ∃ before after, text = before ++ block ++ '\n' :: after ∧
    (∀ c ∈ before.getLast?, c = '\n') ∧ unit.startLine = nextLine before ∧
    unit.endLine = nextLine (before ++ block)

namespace Occupies

variable {text block : List Char} {unit : UnitSpan}

/-- What is put behind a text moves no lines. -/
theorem append (occupies : Occupies text unit block) (added : List Char) :
    Occupies (text ++ added) unit block := by
  obtain ⟨before, after, rfl, isLineStart, starts, ends⟩ := occupies.placed
  exact ⟨before, after ++ added, by simp, isLineStart, starts, ends⟩

/-- The lines of a unit are those of its block. -/
theorem unitLines_eq {module : Module} (occupies : Occupies module.text.toList unit block) :
    module.unitLines unit = Text.splitOn (· == '\n') block := by
  obtain ⟨before, after, isText, isLineStart, starts, ends⟩ := occupies.placed
  let lines := Text.splitOn (· == '\n')
  -- Before the unit there are whole lines, one for each line feed.
  have cut : ∃ above, above.length = before.count '\n' ∧
      lines module.text.toList = above ++ (lines block ++ lines after) := by
    have rest : lines (block ++ '\n' :: after) = lines block ++ lines after :=
      Text.splitOn_append rfl block after
    rcases List.eq_nil_or_concat before with rfl | ⟨front, c, isConcat⟩
    · exact ⟨[], rfl, by rw [isText, List.nil_append, rest, List.nil_append]⟩
    · rw [List.concat_eq_append] at isConcat
      obtain rfl : c = '\n' := isLineStart c (by rw [isConcat, List.getLast?_concat]; rfl)
      refine ⟨lines front, ?_, ?_⟩
      · rw [Text.length_splitOn_newline, isConcat, List.count_append]
        rfl
      · rw [isText, isConcat, List.append_assoc, List.append_assoc, List.singleton_append,
          ← rest]
        exact Text.splitOn_append rfl front _
  obtain ⟨above, isAbove, isLines⟩ := cut
  have startsAfter : unit.startLine - 1 = above.length := by
    rw [starts, nextLine, isAbove, Nat.add_sub_cancel]
  have goesOn : unit.endLine + 1 - unit.startLine = (lines block).length := by
    rw [starts, ends, nextLine, nextLine, List.count_append, Text.length_splitOn_newline]
    omega
  change ((lines module.text.toList).drop (unit.startLine - 1)).take
    (unit.endLine + 1 - unit.startLine) = lines block
  rw [isLines, startsAfter, goesOn, List.drop_left, List.take_left]

/-- The lines of a unit hold its block. -/
theorem unitText_eq {module : Module} (occupies : Occupies module.text.toList unit block) :
    module.unitText unit = String.ofList block := by
  calc module.unitText unit = String.ofList (List.intercalate ['\n'] (module.unitLines unit)) := rfl
    _ = String.ofList block := by
      rw [occupies.unitLines_eq, Text.intercalate_splitOn_newline]

end Occupies

/-! ## Building modules -/

/-- Text that is set apart ends at the start of a line. -/
theorem isLineStart_separator (text : List Char) :
    ∀ c ∈ (text ++ separator text).getLast?, c = '\n' := by
  intro c isLast
  unfold separator at isLast
  split at isLast
  · rename_i isEmpty
    rw [List.reverse_eq_nil_iff.mp isEmpty] at isLast
    cases isLast
  · rename_i rest ends
    rw [List.append_nil, List.getLast?_eq_head?_reverse, ends] at isLast
    exact (Option.some.inj isLast).symm
  · rw [List.getLast?_concat] at isLast
    exact (Option.some.inj isLast).symm
  · rw [List.getLast?_append] at isLast
    exact (Option.some.inj isLast).symm

/-- The units of a module, in order, are named and occupied as listed. -/
def Holds (module : Module) (blocks : List (String × List Char)) : Prop :=
  List.Forall₂
    (fun unit block => unit.name = block.1 ∧ Occupies module.text.toList unit block.2)
    module.units blocks

namespace Holds

variable {module : Module} {blocks : List (String × List Char)}

theorem start (name : String) (kind : ModuleKind) : Holds (Module.start name kind) [] :=
  .nil

/-- The texts of the units are the blocks that they hold. -/
theorem unitTexts_eq (holds : Holds module blocks) :
    module.unitTexts = blocks.map fun block => (block.1, String.ofList block.2) := by
  rw [unitTexts, ← List.forall₂_eq_eq_eq, List.forall₂_map_left_iff, List.forall₂_map_right_iff]
  refine holds.imp fun unit block => ?_
  rintro ⟨isNamed, occupies⟩
  rw [isNamed, occupies.unitText_eq]

/-- Units stay as they are when text is added behind them. -/
theorem append (holds : Holds module blocks) {longer : Module} (added : List Char)
    (isLonger : longer.text.toList = module.text.toList ++ added) :
    List.Forall₂
      (fun unit block => unit.name = block.1 ∧ Occupies longer.text.toList unit block.2)
      module.units blocks := by
  refine holds.imp fun unit block => ?_
  rintro ⟨isNamed, occupies⟩
  rw [isLonger]
  exact ⟨isNamed, occupies.append added⟩

theorem addRaw (holds : Holds module blocks) (block : String) :
    Holds (module.addRaw block) blocks := by
  unfold Module.addRaw
  split
  · exact holds
  · refine holds.append (separator module.text.toList ++ closeBlock block.toList) ?_
    rw [String.toList_ofList, appendBlock, List.append_assoc]

/-- A new unit occupies the lines that are recorded for it. -/
theorem addUnit (holds : Holds module blocks) (name block : String) :
    Holds (module.addUnit name block)
      (blocks ++ [(name, Text.dropEndWhile (· == '\n') block.toList)]) := by
  let before := module.text.toList
  let trimmed := Text.dropEndWhile (· == '\n') block.toList
  have isText : (module.addUnit name block).text.toList =
      before ++ separator before ++ trimmed ++ ['\n'] := by
    rw [Module.addUnit, String.toList_ofList, appendBlock, closeBlock]
    simp only [List.append_assoc, before, trimmed]
  refine List.rel_append (holds.append (separator before ++ trimmed ++ ['\n']) ?_)
    (.cons ⟨rfl, ⟨before ++ separator before, [], isText, isLineStart_separator before,
      (nextLine_append_separator before).symm, ?_⟩⟩ .nil)
  · rw [isText]
    simp only [List.append_assoc, before]
  · -- The line feed at the end of the block is counted and taken off again.
    change nextLine (appendBlock before block.toList) - 1 = _
    rw [appendBlock, closeBlock, ← List.append_assoc, nextLine, List.count_append]
    rfl

theorem foldl_addUnit {α : Type} (items : List α) (name text : α → String)
    (holds : Holds module blocks) :
    Holds (items.foldl (fun module item => module.addUnit (name item) (text item)) module)
      (blocks ++
        items.map fun item => (name item, Text.dropEndWhile (· == '\n') (text item).toList)) := by
  induction items generalizing module blocks with
  | nil => rwa [List.map_nil, List.append_nil]
  | cons item rest ih =>
      have next := ih (holds.addUnit (name item) (text item))
      rwa [List.append_assoc, List.singleton_append] at next

end Holds

/-- The units of a declarations module hold its definitions. -/
theorem unitTexts_declarations (name : String) (definitions : List Definition)
    (language : Language) :
    (declarations name definitions language).unitTexts =
      definitions.map fun definition =>
        (definition.name, unitBlock (definition.emit language)) := by
  have units := ((Holds.start name .declarations).addRaw preamble).foldl_addUnit definitions
    (·.name) (·.emit language)
  have holds : Holds (declarations name definitions language) (definitions.map fun definition =>
      (definition.name, Text.dropEndWhile (· == '\n') (definition.emit language).toList)) := by
    unfold declarations
    split
    · exact units.addRaw _
    · exact units
  rw [holds.unitTexts_eq, List.map_map]
  rfl

/-- The units of a request module hold its functions. -/
theorem unitTexts_requests (name : String) (functions : List RequestFunction)
    (language : Language) (header path : String) (aliases : Naming.Aliases) :
    (requests name functions language header path aliases).unitTexts =
      functions.map fun function => (function.name, unitBlock function.text) := by
  have units := ((((Holds.start name .requests).addRaw preamble).addRaw header).addRaw
    (RequestFunction.importBlock (RequestFunction.allImports functions) language path
      aliases)).foldl_addUnit functions (·.name) (·.text)
  rw [requests, units.unitTexts_eq, List.nil_append, List.map_map]
  rfl

end TypedClient.Module
