/-
# Unified differences

The difference of two texts as hunks of changed lines, each with a few unchanged lines around it,
under a header that names both texts.
-/

import TypedClient.Diff.Compact

namespace TypedClient.Diff

/-- The lines of a text, each with its line end, given the current line in reverse. A carriage
return ends a line too, together with a line feed directly after it. -/
def linesFrom : (current : List Char) → List Char → List (List Char)
  | [], [] => []
  | current, [] => [current.reverse]
  | current, '\r' :: '\n' :: rest => ('\n' :: '\r' :: current).reverse :: linesFrom [] rest
  | current, c :: rest =>
    if c = '\n' || c = '\r' then (c :: current).reverse :: linesFrom [] rest
    else linesFrom (c :: current) rest

/-- The lines of a text, each with its line end. -/
def lines (text : String) : List String :=
  (linesFrom [] text.toList).map String.ofList

/-- A stretch of lines that are kept, or of old lines that new lines take the place of. -/
structure Block where
  isKept : Bool
  old : Nat
  oldLength : Nat
  new : Nat
  newLength : Nat
  deriving DecidableEq, Repr

/-- The change that removals and insertions without kept lines between them make. -/
def changeBlock? (removal insertion : Option Run) : Option Block :=
  match removal, insertion with
  | some r, some i => some ⟨false, r.old, r.length, i.new, i.length⟩
  | some r, none => some ⟨false, r.old, r.length, r.new, 0⟩
  | none, some i => some ⟨false, i.old, 0, i.new, i.length⟩
  | none, none => none

/-- A run joined by the next of its kind. -/
def joinRun (seen : Option Run) (run : Run) : Option Run :=
  some ((seen.map (·.grow run.length)).getD run)

/-- The blocks of runs; `kept`, `removal` and `insertion` are what has been seen of the block at
hand. -/
def blocksFrom : (kept removal insertion : Option Run) → List Run → List Block
  | kept, removal, insertion, [] =>
    (kept.map fun k => Block.mk true k.old k.length k.new k.length).toList ++
      (changeBlock? removal insertion).toList
  | kept, removal, insertion, run :: rest =>
    match run.kind with
    | .keep =>
      (changeBlock? removal insertion).toList ++ blocksFrom (joinRun kept run) none none rest
    | .remove =>
      (kept.map fun k => Block.mk true k.old k.length k.new k.length).toList ++
        blocksFrom none (joinRun removal run) insertion rest
    | .insert =>
      (kept.map fun k => Block.mk true k.old k.length k.new k.length).toList ++
        blocksFrom none removal (joinRun insertion run) rest

/-- The number of unchanged lines around a change. -/
def context : Nat := 3

/-- The last lines of a kept block, at most `context`. -/
def Block.tail (block : Block) : Block :=
  let skipped := block.oldLength - context
  ⟨block.isKept, block.old + skipped, block.oldLength - skipped, block.new + skipped,
    block.newLength - skipped⟩

/-- The first lines of a kept block, at most `context`. -/
def Block.head (block : Block) : Block :=
  { block with oldLength := min block.oldLength context, newLength := min block.newLength context }

/-- The blocks with the kept lines at both ends cut down. -/
def trimEnds (blocks : List Block) : List Block :=
  let started := match blocks with
    | first :: rest => if first.isKept then first.tail :: rest else blocks
    | [] => []
  match started.reverse with
  | last :: rest => if last.isKept then (last.head :: rest).reverse else started
  | [] => []

/-- The blocks of each hunk, given those of the hunk at hand in reverse: a kept block of more lines
than two hunks need ends one and starts another. -/
def hunksFrom : (current : List Block) → List Block → List (List Block)
  | current, [] =>
    if current.all (·.isKept) && current.length ≤ 1 then [] else [current.reverse]
  | current, block :: rest =>
    if block.isKept && 2 * context < block.oldLength then
      (block.head :: current).reverse :: hunksFrom [block.tail] rest
    else hunksFrom (block :: current) rest

/-- A range of lines in a hunk's header: the first line and how many, or the line before if there
are none. -/
def rangeText (start finish : Nat) : String :=
  let length := finish - start
  if length = 1 then toString (start + 1)
  else toString (if length = 0 then start else start + 1) ++ "," ++ toString length

/-- The lines of a hunk under a sign. A line without line end, the last of its text, is marked. -/
def signedLines (sign : String) (texts : Array String) (start length : Nat) : String :=
  String.join ((texts.toList.drop start |>.take length).map fun line =>
    let ended := match line.toList.getLast? with
      | some c => c = '\n' || c = '\r'
      | none => false
    sign ++ line ++ (if ended then "" else "\n\\ No newline at end of file\n"))

/-- The text of a hunk. -/
def hunkText (old new : Array String) (blocks : List Block) : String :=
  match blocks.head?, blocks.getLast? with
  | some first, some last =>
    let header := "@@ -" ++ rangeText first.old (last.old + last.oldLength) ++ " +" ++
      rangeText first.new (last.new + last.newLength) ++ " @@\n"
    let body := blocks.map fun block =>
      if block.isKept then signedLines " " old block.old block.oldLength
      else signedLines "-" old block.old block.oldLength ++
        signedLines "+" new block.new block.newLength
    header ++ String.join body
  | _, _ => ""

/-- The difference of two texts under the names of both. -/
def unified (oldName newName old new : String) : String :=
  let oldLines := (lines old).toArray
  let newLines := (lines new).toArray
  let blocks := blocksFrom none none none (compactRuns oldLines newLines)
  let hunks := hunksFrom [] (trimEnds blocks)
  if hunks.isEmpty then ""
  else "--- " ++ oldName ++ "\n+++ " ++ newName ++ "\n" ++
    String.join (hunks.map (hunkText oldLines newLines))

end TypedClient.Diff
