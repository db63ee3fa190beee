/-
# Runs of code points

Character properties come as lists of runs. A run may skip: upper- and lower-case letters often
alternate, and a run of stride two covers such a stretch in one entry.
-/

namespace TypedClient.Text

/-- Every `stride`-th code point from `first` to `last`. -/
structure CodeRun where
  first : Nat
  last : Nat
  stride : Nat
  deriving Repr

namespace CodeRun

/-- Membership of a code point in a run. -/
def contains (run : CodeRun) (code : Nat) : Bool :=
  run.first ≤ code && code ≤ run.last && (code - run.first) % run.stride == 0

/-- Membership of a code point in one of several runs. -/
def anyContains (runs : List CodeRun) (code : Nat) : Bool :=
  runs.any (·.contains code)

end CodeRun

end TypedClient.Text
