/-
# Compact scripts

An insertion among lines like its own can stand at several places. It is moved up as far as the
lines allow, past removals, and then down again, and joins the runs of its kind that it meets. A
removal moves only past insertions.
-/

import TypedClient.Diff.Script

namespace TypedClient.Diff

namespace Run

/-- A run whose start is moved down. -/
def moveDown (n : Nat) (run : Run) : Run := { run with old := run.old + n, new := run.new + n }

/-- A run whose start is moved up. -/
def moveUp (n : Nat) (run : Run) : Run := { run with old := run.old - n, new := run.new - n }

/-- A run with lines added at its end. -/
def grow (n : Nat) (run : Run) : Run := { run with length := run.length + n }

/-- A run with lines taken from its end. -/
def shrink (n : Nat) (run : Run) : Run := { run with length := run.length - n }

end Run

/-- A run and the runs around it, the nearest first. -/
structure Focus where
  before : List Run
  run : Run
  after : List Run

section

variable (old new : Array String)

/-- Keeps lines after a run: the run after it grows at its start, or there is a new one. -/
def keepAfter (kept : Run) : List Run → List Run
  | next :: after =>
    if next.kind = .keep then (next.moveUp kept.length).grow kept.length :: after
    else kept :: next :: after
  | [] => [kept]

/-- Keeps lines before a run: the run before it grows at its end, or there is a new one. -/
def keepBefore (kept : Run) : List Run → List Run
  | previous :: before =>
    if previous.kind = .keep then previous.grow kept.length :: before
    else kept :: previous :: before
  | [] => [kept]

/-- A list of runs headed by one that may have become empty. -/
def consNonempty (run : Run) (rest : List Run) : List Run :=
  if run.length = 0 then rest else run :: rest

/-- Moves a run up. -/
def moveRunUp : (fuel : Nat) → Focus → Focus
  | 0, focus => focus
  | fuel + 1, ⟨before, run, after⟩ =>
    match before with
    | [] => ⟨[], run, after⟩
    | previous :: before =>
      if previous.kind = run.kind then
        moveRunUp fuel ⟨before, previous.grow run.length, after⟩
      else if previous.kind = .keep then
        let same := if run.kind = .insert then
            sameBefore old new (min previous.length run.length) (previous.old + previous.length)
              (run.new + run.length)
          else 0
        if 0 < same then
          let kept : Run :=
            ⟨.keep, previous.old + previous.length - same, run.new + run.length - same, same⟩
          moveRunUp fuel ⟨consNonempty (previous.shrink same) before, run.moveUp same,
            keepAfter kept after⟩
        else if previous.length = 0 then moveRunUp fuel ⟨before, run, after⟩
        else ⟨previous :: before, run, after⟩
      else moveRunUp fuel ⟨before, run, previous :: after⟩

/-- Moves a run down. -/
def moveRunDown : (fuel : Nat) → Focus → Focus
  | 0, focus => focus
  | fuel + 1, ⟨before, run, after⟩ =>
    match after with
    | [] => ⟨before, run, []⟩
    | next :: after =>
      if next.kind = run.kind then moveRunDown fuel ⟨before, run.grow next.length, after⟩
      else if next.kind = .keep then
        let same := if run.kind = .insert then
            sameAfter old new (min next.length run.length) next.old run.new
          else 0
        if 0 < same then
          let kept : Run := ⟨.keep, next.old, run.new, same⟩
          moveRunDown fuel ⟨keepBefore kept before, run.moveDown same,
            consNonempty ((next.moveDown same).shrink same) after⟩
        else if next.length = 0 then moveRunDown fuel ⟨before, run, after⟩
        else ⟨before, run, next :: after⟩
      else moveRunDown fuel ⟨next :: before, run, after⟩

/-- Moves each run of a kind up and then down, from the first to the last. `before` is in reverse.
-/
def moveRuns (kind : RunKind) : (fuel : Nat) → (before after : List Run) → List Run
  | 0, before, after => before.reverse ++ after
  | _ + 1, before, [] => before.reverse
  | fuel + 1, before, run :: after =>
    if run.kind = kind then
      let limit := 2 * (old.size + new.size + before.length + after.length) + 2
      let moved := moveRunDown old new limit (moveRunUp old new limit ⟨before, run, after⟩)
      moveRuns kind fuel (moved.run :: moved.before) moved.after
    else moveRuns kind fuel (run :: before) after

/-- The runs of a shortest path, moved where they join best. -/
def compactRuns : List Run :=
  let found := runs old new
  let limit := 2 * (old.size + new.size + found.length) + 2
  let moved := moveRuns old new .remove limit [] found
  moveRuns old new .insert limit [] moved

end

end TypedClient.Diff
