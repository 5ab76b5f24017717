/-!
# Hexadecimal digits

Single digits and bytes in base sixteen, and the digits read back in either case.
-/

set_option autoImplicit false

namespace Rowgraph.Hex

/-- The lower-case digit of a value below sixteen. -/
def lowerDigit (n : Fin 16) : Char :=
  if n.val < 10 then Char.ofNat (48 + n.val) else Char.ofNat (87 + n.val)

/-- The upper-case digit of a value below sixteen. -/
def upperDigit (n : Fin 16) : Char :=
  if n.val < 10 then Char.ofNat (48 + n.val) else Char.ofNat (55 + n.val)

/-- The value of a digit written in either case. -/
def value? (c : Char) : Option (Fin 16) :=
  let code := c.toNat
  if 48 ≤ code ∧ code ≤ 57 then some (Fin.ofNat 16 (code - 48))
  else if 97 ≤ code ∧ code ≤ 102 then some (Fin.ofNat 16 (code - 87))
  else if 65 ≤ code ∧ code ≤ 70 then some (Fin.ofNat 16 (code - 55))
  else none

/-- The two halves of a byte, high half first. -/
def halves (b : UInt8) : Fin 16 × Fin 16 :=
  (Fin.ofNat 16 (b.toNat / 16), Fin.ofNat 16 (b.toNat % 16))

/-- A byte as two upper-case digits. -/
def upperByte (b : UInt8) : List Char :=
  [upperDigit (halves b).1, upperDigit (halves b).2]

/-- A byte as two lower-case digits. -/
def lowerByte (b : UInt8) : List Char :=
  [lowerDigit (halves b).1, lowerDigit (halves b).2]

/-- The number that a list of digits writes, most significant first. -/
def number? (digits : List Char) : Option Nat :=
  digits.foldlM (fun n c => (value? c).map fun d => 16 * n + d.val) 0

end Rowgraph.Hex
