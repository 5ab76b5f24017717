import Rowgraph.Error

/-!
# Split plans

Where the columns of each joined table begin in a flat row. A plan fits a row when its points are
inside the row and each lies behind the one before it.
-/

set_option autoImplicit false

namespace Rowgraph

/-- The first column of a joined table. -/
structure SplitPoint where
  /-- The table's position in the chain. -/
  position : Nat
  column : String
  /-- The number of columns before it. -/
  offset : Nat
  deriving DecidableEq

/-- One point for each joined table. -/
structure SplitPlan where
  points : List SplitPoint := []
  deriving DecidableEq

namespace SplitPlan

/-- The names of the split columns, between commas. -/
def splitOn (plan : SplitPlan) : String :=
  String.intercalate "," (plan.points.map (·.column))

/-- The ranges from `start` to the end of a row, cut at the points that are left. -/
def rangesFrom (width : Nat) : Nat → List SplitPoint → Except Error (List (Nat × Nat))
  | start, [] => .ok [(start, width)]
  | start, point :: rest =>
    if point.offset ≤ start ∨ width ≤ point.offset then
      .error (.result (.splitMisfit point.column point.offset width))
    else (rangesFrom width point.offset rest).map ((start, point.offset) :: ·)

/-- The range of columns of each table in a row of `width` columns: its first column, and the first
one after it. -/
def ranges (plan : SplitPlan) (width : Nat) : Except Error (List (Nat × Nat)) :=
  rangesFrom width 0 plan.points

end SplitPlan

end Rowgraph
