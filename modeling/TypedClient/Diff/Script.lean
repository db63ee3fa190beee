/-
# Edit scripts

A shortest way from one sequence of lines to another by removing and inserting lines. Common lines
at both ends are set aside; what is left is split at a point on a shortest path, which two searches
find that go forward from the start and backward from the end at once.
-/

namespace TypedClient.Diff

/-- What a run of lines is. -/
inductive RunKind where
  | keep
  | remove
  | insert
  deriving DecidableEq, Repr

/-- A run of lines, with the places in the old and the new sequence at which it starts. -/
structure Run where
  kind : RunKind
  old : Nat
  new : Nat
  length : Nat
  deriving DecidableEq, Repr

/-- A range of the old sequence and one of the new. -/
structure Box where
  oldStart : Nat
  oldEnd : Nat
  newStart : Nat
  newEnd : Nat
  deriving DecidableEq, Repr

/-- The number of lines in the old range. -/
def Box.height (box : Box) : Nat := box.oldEnd - box.oldStart

/-- The number of lines in the new range. -/
def Box.width (box : Box) : Nat := box.newEnd - box.newStart

section

variable (old new : Array String)

/-- How many lines from two places on are the same, at most `limit`. -/
def sameAfter : (limit i j : Nat) → Nat
  | 0, _, _ => 0
  | limit + 1, i, j => if old[i]? = new[j]? then sameAfter limit (i + 1) (j + 1) + 1 else 0

/-- How many lines before two places are the same, at most `limit`. -/
def sameBefore : (limit i j : Nat) → Nat
  | 0, _, _ => 0
  | limit + 1, i, j =>
    if old[i - 1]? = new[j - 1]? then sameBefore limit (i - 1) (j - 1) + 1 else 0

/-- How far a search has come on each diagonal. Diagonals from minus to plus `reach` are kept. -/
structure Frontier where
  reach : Nat
  furthest : Array Nat

namespace Frontier

/-- A search that has not started. -/
def empty (reach : Nat) : Frontier := ⟨reach, Array.replicate (2 * reach + 1) 0⟩

/-- How far the search has come on a diagonal. -/
def get (frontier : Frontier) (diagonal : Int) : Nat :=
  frontier.furthest.getD (diagonal + frontier.reach).toNat 0

/-- Records how far the search has come on a diagonal. -/
def set (frontier : Frontier) (diagonal : Int) (x : Nat) : Frontier :=
  { frontier with
    furthest := frontier.furthest.setIfInBounds (diagonal + frontier.reach).toNat x }

/-- Where the next step onto a diagonal starts, after `depth` steps: from the neighbour above or
the one below, whichever is further. -/
def enter (frontier : Frontier) (depth : Nat) (diagonal : Int) : Nat :=
  let below := frontier.get (diagonal - 1)
  let above := frontier.get (diagonal + 1)
  if diagonal = -depth || (diagonal ≠ depth && below < above) then above else below + 1

end Frontier

/-- The diagonals reached after a number of steps, from the greatest. -/
def diagonals (depth : Nat) : List Int :=
  (List.range (depth + 1)).map fun (i : Nat) => (depth : Int) - 2 * (i : Int)

/-- One step of a search on each diagonal. `extend` tells how many lines are the same from a point
on; `meets` tells whether a diagonal and its furthest point meet the other search. Gives the
search's new frontier, or the diagonal that meets the other search with the ends of its last run.
-/
def sweep (depth : Nat) (extend : Nat → Nat → Nat) (height width : Nat)
    (meets : Int → Nat → Bool) :
    List Int → Frontier → Except (Int × Nat × Nat) Frontier
  | [], frontier => .ok frontier
  | diagonal :: rest, frontier =>
    let start := frontier.enter depth diagonal
    let y : Int := start - diagonal
    let run := if start < height && 0 ≤ y && y < width then extend start y.toNat else 0
    if meets diagonal (start + run) then .error (diagonal, start, start + run)
    else sweep depth extend height width meets rest (frontier.set diagonal (start + run))

/-- A point on a shortest path through a box, searched for with at most `fuel` more steps after
`depth`. -/
def middleFrom (box : Box) :
    (fuel depth : Nat) → (forward backward : Frontier) → Option (Nat × Nat)
  | 0, _, _, _ => none
  | fuel + 1, depth, forward, backward =>
    let height := box.height
    let width := box.width
    let delta : Int := height - width
    let odd := delta % 2 ≠ 0
    let extendForward x y :=
      sameAfter old new (min (height - x) (width - y)) (box.oldStart + x) (box.newStart + y)
    let meetsBackward (diagonal : Int) x :=
      odd && (diagonal - delta).natAbs + 1 ≤ depth && height ≤ x + backward.get (delta - diagonal)
    match sweep depth extendForward height width meetsBackward (diagonals depth) forward with
    | .error (diagonal, start, _) =>
      some (box.oldStart + start, box.newStart + (start - diagonal).toNat)
    | .ok forward =>
      let extendBackward x y :=
        sameBefore old new (min (height - x) (width - y)) (box.oldEnd - x) (box.newEnd - y)
      let meetsForward (diagonal : Int) x :=
        !odd && (diagonal - delta).natAbs ≤ depth && height ≤ x + forward.get (delta - diagonal)
      match sweep depth extendBackward height width meetsForward (diagonals depth) backward with
      | .error (diagonal, _, finish) =>
        some (box.oldEnd - finish, box.newEnd - (finish - diagonal).toNat)
      | .ok backward => middleFrom box fuel (depth + 1) forward backward

/-- A point on a shortest path through a box. -/
def middle? (box : Box) : Option (Nat × Nat) :=
  let steps := (box.height + box.width + 1) / 2 + 1
  middleFrom old new box steps 0 (.empty (steps + 1)) (.empty (steps + 1))

/-- The runs of a shortest path through a box; `fuel` bounds how often it is split. -/
def runsFrom : (fuel : Nat) → Box → List Run
  | 0, _ => []
  | fuel + 1, box =>
    let before := sameAfter old new (min box.height box.width) box.oldStart box.newStart
    let box := { box with oldStart := box.oldStart + before, newStart := box.newStart + before }
    let after := sameBefore old new (min box.height box.width) box.oldEnd box.newEnd
    let box := { box with oldEnd := box.oldEnd - after, newEnd := box.newEnd - after }
    let keep (old new length : Nat) : List Run :=
      if length = 0 then [] else [⟨.keep, old, new, length⟩]
    let removal : Run := ⟨.remove, box.oldStart, box.newStart, box.height⟩
    let insertion (old : Nat) : Run := ⟨.insert, old, box.newStart, box.width⟩
    let inside :=
      if box.height = 0 && box.width = 0 then []
      else if box.width = 0 then [removal]
      else if box.height = 0 then [insertion box.oldStart]
      else
        match middle? old new box with
        | some (x, y) =>
          runsFrom fuel { box with oldEnd := x, newEnd := y } ++
            runsFrom fuel { box with oldStart := x, newStart := y }
        | none => [removal, insertion box.oldEnd]
    keep (box.oldStart - before) (box.newStart - before) before ++ inside ++
      keep box.oldEnd box.newEnd after

/-- The runs of a shortest path from the old sequence to the new one. -/
def runs : List Run :=
  runsFrom old new (old.size + new.size + 1) ⟨0, old.size, 0, new.size⟩

end

end TypedClient.Diff
