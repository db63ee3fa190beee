/-
# Lines of units

Units are put one behind the other, each on lines of its own. So the spans of a generated module are
in order and apart, and a line belongs to one unit at most: the one that a complaint about the line
is traced to.
-/

import Mathlib.Data.List.Pairwise
import TypedClient.Declaration.Emit
import TypedClient.Request.Function

namespace TypedClient

/-- A line is one of the lines of a unit. -/
def UnitSpan.Covers (unit : UnitSpan) (line : Nat) : Prop :=
  unit.startLine ≤ line ∧ line ≤ unit.endLine

namespace Module

/-! ## Text that is added -/

theorem isPrefix_addRaw (module : Module) (block : String) :
    module.text.toList <+: (module.addRaw block).text.toList := by
  unfold addRaw
  split
  · exact List.prefix_rfl
  · rw [String.toList_ofList, appendBlock, List.append_assoc]
    exact List.prefix_append _ _

theorem isPrefix_addUnit (module : Module) (name block : String) :
    module.text.toList <+: (module.addUnit name block).text.toList := by
  simp only [addUnit, appendBlock, String.toList_ofList, List.append_assoc]
  exact List.prefix_append _ _

theorem isPrefix_foldl_addUnit {α : Type} (items : List α) (name text : α → String)
    (module : Module) : module.text.toList <+: (items.foldl
      (fun module item => module.addUnit (name item) (text item)) module).text.toList := by
  induction items generalizing module with
  | nil => exact List.prefix_rfl
  | cons item items ih => exact (module.isPrefix_addUnit _ _).trans (ih _)

/-! ## Spans in order -/

/-- Every unit of a module starts after the one before it ends, and the last one ends where the text
still goes on. -/
structure InOrder (module : Module) : Prop where
  apart : module.units.Pairwise (·.endLine < ·.startLine)
  nonempty : ∀ unit ∈ module.units, unit.startLine ≤ unit.endLine
  inText : ∀ unit ∈ module.units, unit.endLine < nextLine module.text.toList

namespace InOrder

variable {module : Module}

theorem start (name : String) (kind : ModuleKind) : (Module.start name kind).InOrder :=
  ⟨.nil, List.forall_mem_nil _, List.forall_mem_nil _⟩

/-- Text that is added moves no line. -/
theorem nextLine_le_append (text added : List Char) : nextLine text ≤ nextLine (text ++ added) := by
  rw [nextLine, nextLine, List.count_append]
  omega

theorem addRaw (inOrder : module.InOrder) (block : String) : (module.addRaw block).InOrder := by
  unfold Module.addRaw
  split
  · exact inOrder
  · refine ⟨inOrder.apart, inOrder.nonempty, fun unit member => ?_⟩
    refine Nat.lt_of_lt_of_le (inOrder.inText unit member) ?_
    rw [String.toList_ofList, appendBlock, List.append_assoc]
    exact nextLine_le_append _ _

/-- A new unit goes from the end of the text up to the new end. -/
theorem addUnit (inOrder : module.InOrder) (name block : String) :
    (module.addUnit name block).InOrder := by
  let before := module.text.toList
  let after := appendBlock before block.toList
  let added : UnitSpan := ⟨name, nextLine before + pendingLines before, nextLine after - 1⟩
  have starts : nextLine before ≤ added.startLine := Nat.le_add_right _ _
  have isStart : added.startLine = nextLine (before ++ separator before) :=
    (nextLine_append_separator before).symm
  have ends : added.startLine ≤ added.endLine ∧ added.endLine < nextLine after := by
    rw [isStart]
    simp only [added, after, appendBlock, closeBlock, nextLine, List.count_append,
      List.count_singleton_self]
    omega
  have isText : (module.addUnit name block).text.toList = after := String.toList_ofList
  refine ⟨?_, ?_, ?_⟩
  · refine List.pairwise_append.mpr ⟨inOrder.apart, List.pairwise_singleton _ _, ?_⟩
    intro unit member other isAdded
    obtain rfl : other = added := List.mem_singleton.mp isAdded
    exact Nat.lt_of_lt_of_le (inOrder.inText unit member) starts
  · exact List.forall_mem_append.mpr
      ⟨inOrder.nonempty, List.forall_mem_singleton.mpr ends.1⟩
  · rw [isText]
    refine List.forall_mem_append.mpr ⟨fun unit member => ?_, List.forall_mem_singleton.mpr ends.2⟩
    refine Nat.lt_of_lt_of_le (inOrder.inText unit member) ?_
    exact Nat.le_trans starts (Nat.le_trans ends.1 (Nat.le_of_lt ends.2))

theorem foldl_addUnit {α : Type} (items : List α) (name text : α → String)
    (inOrder : module.InOrder) :
    (items.foldl (fun module item => module.addUnit (name item) (text item)) module).InOrder := by
  induction items generalizing module with
  | nil => exact inOrder
  | cons item rest ih => exact ih (inOrder.addUnit (name item) (text item))

theorem declarations (name : String) (definitions : List Definition) (language : Language) :
    (Module.declarations name definitions language).InOrder := by
  have units := ((InOrder.start name .declarations).addRaw preamble).foldl_addUnit definitions
    (·.name) (·.emit language)
  unfold Module.declarations
  split
  · exact units.addRaw _
  · exact units

theorem requests (name : String) (functions : List RequestFunction) (language : Language)
    (header path : String) (aliases : Naming.Aliases) :
    (Module.requests name functions language header path aliases).InOrder :=
  ((((InOrder.start name .requests).addRaw preamble).addRaw header).addRaw _).foldl_addUnit
    functions (·.name) (·.text)

/-- No line belongs to two units. -/
theorem eq_of_covers (inOrder : module.InOrder) {line : Nat} {unit other : UnitSpan}
    (isUnit : unit ∈ module.units) (isOther : other ∈ module.units)
    (covers : unit.Covers line) (alsoCovers : other.Covers line) : unit = other := by
  let SameLine (unit other : UnitSpan) := unit.Covers line → other.Covers line → unit = other
  have symmetric : Std.Symm SameLine :=
    ⟨fun _ _ same covers alsoCovers => (same alsoCovers covers).symm⟩
  have apart : module.units.Pairwise SameLine := by
    refine inOrder.apart.imp fun {unit other} apart covers alsoCovers => ?_
    have before := Nat.lt_of_le_of_lt covers.2 apart
    exact absurd alsoCovers.1 (Nat.not_le_of_lt before)
  exact apart.forall_of_forall (fun _ _ _ _ => rfl) isUnit isOther covers alsoCovers

/-- A line of a unit is traced to the unit. -/
theorem unitAt?_eq_some (inOrder : module.InOrder) {unit : UnitSpan} {line : Nat}
    (isUnit : unit ∈ module.units) (covers : unit.Covers line) :
    module.unitAt? line = some unit.name := by
  rw [unitAt?, Option.map_eq_some_iff]
  cases found : module.units.find? fun unit => unit.startLine ≤ line && line ≤ unit.endLine with
  | none =>
      have uncovered := List.find?_eq_none.mp found unit isUnit
      simp only [Bool.and_eq_true, decide_eq_true_eq] at uncovered
      exact absurd covers uncovered
  | some first =>
      have firstCovers := List.find?_some found
      simp only [Bool.and_eq_true, decide_eq_true_eq] at firstCovers
      have isFirst := List.mem_of_find?_eq_some found
      exact ⟨first, rfl, congrArg _ (inOrder.eq_of_covers isFirst isUnit firstCovers covers)⟩

/-- A line is traced to the units that it is a line of. -/
theorem unitAt?_eq_some_iff (inOrder : module.InOrder) {line : Nat} {name : String} :
    module.unitAt? line = some name ↔
      ∃ unit ∈ module.units, unit.name = name ∧ unit.Covers line := by
  constructor
  · intro traced
    obtain ⟨unit, found, isName⟩ := Option.map_eq_some_iff.mp traced
    have covers := List.find?_some found
    simp only [Bool.and_eq_true, decide_eq_true_eq] at covers
    exact ⟨unit, List.mem_of_find?_eq_some found, isName, covers⟩
  · rintro ⟨unit, isUnit, rfl, covers⟩
    exact inOrder.unitAt?_eq_some isUnit covers

end InOrder

/-- A line that belongs to no unit is traced to none. -/
theorem unitAt?_eq_none_iff {module : Module} {line : Nat} :
    module.unitAt? line = none ↔ ∀ unit ∈ module.units, ¬ unit.Covers line := by
  simp [unitAt?, UnitSpan.Covers]

end Module

end TypedClient
