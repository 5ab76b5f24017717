import Rowgraph.Decimal.Shortest

/-!
# Decimal notation

How a decimal is laid out: with a point for the exponents near zero, in scientific form elsewhere. A
whole number keeps one zero after its point; an exponent has no leading zeros, and a plus sign only
where the notation asks for one.
-/

set_option autoImplicit false

namespace Rowgraph

/-- The decisions of a decimal notation. A number whose leading digit has an exponent from `plainFrom`
up to, but not including, `plainBelow` is written with a point. -/
structure Notation where
  plainFrom : Int
  plainBelow : Int
  tie : Tie
  /-- Does an exponent that is not negative have a sign? -/
  plusSign : Bool := false

namespace Decimal

/-- The digits of a number, the point after the first `whole` of them; missing digits are zeros. -/
def pointed (digits : List Char) (whole : Int) : List Char :=
  if whole ≤ 0 then
    ['0', '.'] ++ List.replicate (-whole).toNat '0' ++ digits
  else if digits.length ≤ whole.toNat then
    digits ++ List.replicate (whole.toNat - digits.length) '0' ++ ['.', '0']
  else
    digits.take whole.toNat ++ ['.'] ++ digits.drop whole.toNat

/-- The mark of an exponent, and the exponent. -/
def exponentText (plusSign : Bool) (exponent : Int) : List Char :=
  'e' :: (if plusSign ∧ 0 ≤ exponent then ['+'] else []) ++ (toString exponent).toList

/-- One digit, the others after a point, and the exponent of the leading digit. -/
def scientific (plusSign : Bool) (digits : List Char) (leading : Int) : List Char :=
  (match digits with
  | [] => ['0']
  | [d] => [d]
  | d :: rest => d :: '.' :: rest) ++ exponentText plusSign leading

/-- The text of a positive decimal. -/
def layout (style : Notation) (d : Decimal) : List Char :=
  let digits := Nat.toDigits 10 d.digits
  let leading := d.exponent + digits.length - 1
  if style.plainFrom ≤ leading ∧ leading < style.plainBelow then pointed digits (leading + 1)
  else scientific style.plusSign digits leading

end Decimal

end Rowgraph
