/-!
# Tables of code points

A property of characters is a list of closed ranges of code points, ascending and apart; a case map
is a list of runs, each moving every `stride`-th code point of a range by one distance. The data are
those of Unicode 17.
-/

set_option autoImplicit false

namespace Rowgraph.Unicode

/-- Does a code point lie in one of the closed ranges? -/
def inRanges (ranges : List (Nat × Nat)) (code : Nat) : Bool :=
  ranges.any fun r => r.1 ≤ code && code ≤ r.2

/-- A run of a case map: `first`, `first + stride`, ... up to `last` go to `target`,
`target + stride`, ... -/
structure Run where
  first : Nat
  last : Nat
  stride : Nat
  target : Nat

/-- The code point a run sends `code` to, if the run covers it. -/
def Run.image? (run : Run) (code : Nat) : Option Nat :=
  if run.first ≤ code ∧ code ≤ run.last ∧ (code - run.first) % run.stride = 0 then
    some (run.target + (code - run.first))
  else none

/-- The image of a code point: a replacement by several characters, else the run that covers it,
else itself. -/
def mapCode (replacements : List (Nat × List Nat)) (runs : List Run) (code : Nat) : List Nat :=
  match replacements.lookup code with
  | some codes => codes
  | none => [(runs.findSome? (·.image? code)).getD code]

end Rowgraph.Unicode
