/-!
# Shortest decimals

A positive finite double is `significand * 2 ^ exponent`, and the reals that round to it form an
interval around it. Among the decimals in that interval the shortest one nearest to the value is its
text. It is found on grids of powers of ten, coarse ones first: if any multiple of a power lies in
the interval, so does one of the two multiples next to the value.
-/

set_option autoImplicit false

namespace Rowgraph

/-- A positive number `significand * 2 ^ exponent` with the interval of reals that round to it. -/
structure Dyadic where
  significand : Nat
  exponent : Int
  /-- The value below is only half as far away as the value above. -/
  nearBelow : Bool
  deriving DecidableEq

/-- The number `digits * 10 ^ exponent`. -/
structure Decimal where
  digits : Nat
  exponent : Int
  deriving DecidableEq

/-- Which of two equally near decimals is taken. -/
inductive Tie where
  | toEven
  | up
  deriving DecidableEq

/-- Compares `a * 10 ^ i` with `b * 2 ^ j`, exactly. -/
def compareScaled (a : Nat) (i : Int) (b : Nat) (j : Int) : Ordering :=
  compare (a * Nat.pow 10 i.toNat * Nat.pow 2 (-j).toNat)
    (b * Nat.pow 2 j.toNat * Nat.pow 10 (-i).toNat)

namespace Dyadic

/-- Does the decimal lie among the reals that round to the value? The ends of the interval belong to
it exactly when the significand is even. -/
def readsBack (x : Dyadic) (d : Decimal) : Bool :=
  let low := if x.nearBelow then 4 * x.significand - 1 else 4 * x.significand - 2
  let high := 4 * x.significand + 2
  let ends := x.significand % 2 == 0
  let below := compareScaled d.digits d.exponent low (x.exponent - 2)
  let above := compareScaled d.digits d.exponent high (x.exponent - 2)
  (below == .gt || (ends && below == .eq)) && (above == .lt || (ends && above == .eq))

/-- The greatest `n` with `n * 10 ^ i` at most the value. -/
def floorOn (x : Dyadic) (i : Int) : Nat :=
  (x.significand * Nat.pow 2 x.exponent.toNat * Nat.pow 10 (-i).toNat) /
    (Nat.pow 10 i.toNat * Nat.pow 2 (-x.exponent).toNat)

/-- The multiple of `10 ^ i` nearest to the value among the two next to it that read back. -/
def nearestOn? (x : Dyadic) (tie : Tie) (i : Int) : Option Decimal :=
  let n := x.floorOn i
  let lower : Decimal := ⟨n, i⟩
  let upper : Decimal := ⟨n + 1, i⟩
  match n != 0 && x.readsBack lower, x.readsBack upper with
  | false, false => none
  | true, false => some lower
  | false, true => some upper
  | true, true =>
    match compareScaled (2 * n + 1) i x.significand (x.exponent + 1) with
    | .gt => some lower
    | .lt => some upper
    | .eq =>
      match tie with
      | .up => some upper
      | .toEven => some (if n % 2 = 0 then lower else upper)

/-- The value itself, written out in full. -/
def exact (x : Dyadic) : Decimal :=
  if 0 ≤ x.exponent then ⟨x.significand * Nat.pow 2 x.exponent.toNat, 0⟩
  else ⟨x.significand * Nat.pow 5 (-x.exponent).toNat, x.exponent⟩

/-- A power of ten above the value: one more than the value's binary length times `log₁₀ 2`, rounded
down, and one to spare. -/
def topExponent (x : Dyadic) : Int :=
  (x.significand.log2 + 1 + x.exponent) * 30103 / 100000 + 2

/-- The shortest decimal that reads back, nearest to the value. Every double has one of at most
seventeen digits; the exact value stands in where the search is exhausted. -/
def shortest (x : Dyadic) (tie : Tie) : Decimal :=
  ((List.range 24).findSome? fun (k : Nat) => x.nearestOn? tie (x.topExponent - k)).getD x.exact

end Dyadic

end Rowgraph
