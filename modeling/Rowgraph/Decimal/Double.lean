import Rowgraph.Decimal.Notation

/-!
# Doubles

A double-precision number, held by its sixty-four bits, so that two doubles are equal exactly when
they are the same number, zeros of both signs and every NaN told apart.
-/

set_option autoImplicit false

namespace Rowgraph

/-- A double-precision number, by its bits. -/
structure Double where
  bits : UInt64
  deriving DecidableEq

namespace Double

/-- The number as core computes with it. -/
def toFloat (x : Double) : Float := Float.ofBits x.bits

/-- The bits of a number that core computed. -/
def ofFloat (f : Float) : Double := ⟨f.toBits⟩

/-- The whole number, rounded to the nearest double. -/
def ofInt64 (n : Int64) : Double := ofFloat n.toFloat

/-- Is the sign bit set? -/
def isNegative (x : Double) : Bool := 0x8000000000000000 ≤ x.bits

/-- The bits without the sign. -/
def magnitude (x : Double) : UInt64 := x.bits &&& 0x7FFFFFFFFFFFFFFF

/-- Zero of either sign. -/
def isZero (x : Double) : Bool := x.magnitude == 0

/-- Infinity of either sign. -/
def isInfinite (x : Double) : Bool := x.magnitude == 0x7FF0000000000000

/-- Not a number. -/
def isNaN (x : Double) : Bool := 0x7FF0000000000000 < x.magnitude

/-- Neither infinite nor NaN. -/
def isFinite (x : Double) : Bool := x.magnitude < 0x7FF0000000000000

/-- The absolute value of a finite number other than zero. -/
def toDyadic (x : Double) : Dyadic :=
  let biased := (x.magnitude >>> 52).toNat
  let fraction := (x.magnitude &&& 0xFFFFFFFFFFFFF).toNat
  if biased = 0 then ⟨fraction, -1074, false⟩
  else ⟨Nat.pow 2 52 + fraction, (biased : Int) - 1075, fraction == 0 && 1 < biased⟩

/-- The text of a number in a notation. -/
def render (style : Notation) (x : Double) : String :=
  if x.isNaN then "NaN"
  else
    let body :=
      if x.isInfinite then ['i', 'n', 'f']
      else if x.isZero then ['0', '.', '0']
      else (x.toDyadic.shortest style.tie).layout style
    String.ofList (if x.isNegative then '-' :: body else body)

end Double

end Rowgraph
