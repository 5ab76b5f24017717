import Rowgraph.Json.Reader

/-!
# Numbers in JSON

What a number's characters mean for an integer and for a double. A double is read in double
arithmetic: its digits, as many of them as fit sixty-four bits, times or divided by a power of ten.
The last place may therefore differ from the nearest double.
-/

set_option autoImplicit false

namespace Rowgraph.Json

/-- A number's characters, taken apart. -/
structure NumberParts where
  negative : Bool
  whole : List Char
  /-- `none` where there is no point. -/
  fraction : Option (List Char)
  /-- The sign of the exponent, set for minus, and its digits. -/
  exponent : Option (Bool × List Char)

/-- The parts of a well-formed number. -/
def NumberParts.ofLexeme (lexeme : List Char) : NumberParts :=
  let (negative, cs) := match lexeme with
    | '-' :: rest => (true, rest)
    | _ => (false, lexeme)
  let (whole, cs) := digits cs
  let (fraction, cs) := match cs with
    | '.' :: rest => (some (digits rest).1, (digits rest).2)
    | _ => (none, cs)
  let exponent := match cs with
    | _ :: '-' :: ds => some (true, ds)
    | _ :: '+' :: ds => some (false, ds)
    | _ :: ds => some (false, ds)
    | [] => none
  ⟨negative, whole, fraction, exponent⟩

/-- The value of decimal digits. -/
def natOfDigits (ds : List Char) : Nat := ds.foldl (fun n c => 10 * n + (c.toNat - 48)) 0

/-- The integer that a number without point and exponent writes. Minus zero is no integer. -/
def integer? (lexeme : List Char) : Option Int :=
  let parts := NumberParts.ofLexeme lexeme
  match parts.fraction, parts.exponent with
  | none, none =>
    let n := natOfDigits parts.whole
    if parts.negative then (if n = 0 then none else some (-n)) else some n
  | _, _ => none

/-- The integer of sixty-four bits that a number writes. -/
def int64? (lexeme : List Char) : Option Int64 :=
  match integer? lexeme with
  | some n => if -Int.pow 2 63 ≤ n ∧ n < Int.pow 2 63 then some (Int64.ofInt n) else none
  | none => none

/-- Digits taken into a significand below `2 ^ 64`; the first digit that does not fit stops it. -/
def takeSignificand : Nat → List Char → Nat × List Char
  | n, [] => (n, [])
  | n, c :: rest =>
    let next := 10 * n + (c.toNat - 48)
    if next < Nat.pow 2 64 then takeSignificand next rest else (n, c :: rest)

/-- A significand scaled by a power of ten, at most `10 ^ 308` at a time. There is no result beyond
the largest double. -/
def scale? : Nat → Float → Int → Option Float
  | 0, _, _ => none
  | fuel + 1, x, exponent =>
    if exponent.natAbs ≤ 308 then
      let power := Float.ofScientific 1 false exponent.natAbs
      if 0 ≤ exponent then
        let y := x * power
        if (Double.ofFloat y).isInfinite then none else some y
      else some (x / power)
    else if (Double.ofFloat x).isZero then some x
    else if 0 ≤ exponent then none
    else scale? fuel (x / Float.ofScientific 1 false 308) (exponent + 308)

/-- The double that a number writes. An exponent beyond thirty-two bits leaves zero, or nothing. -/
def double? (lexeme : List Char) : Option Double :=
  let parts := NumberParts.ofLexeme lexeme
  let (n, dropped) := takeSignificand 0 parts.whole
  let (significand, shift) : Nat × Int :=
    match parts.fraction with
    | none => (n, dropped.length)
    | some ds =>
      let (m, rest) := takeSignificand n ds
      (m, dropped.length - ((ds.length - rest.length : Nat) : Int))
  let signed (x : Float) : Double := Double.ofFloat (if parts.negative then -x else x)
  let scaled (exponent : Int) : Option Double :=
    (scale? (exponent.natAbs / 308 + 2) significand.toUInt64.toFloat exponent).map signed
  match parts.exponent with
  | none => scaled shift
  | some (minus, ds) =>
    let e := natOfDigits ds
    if e < Nat.pow 2 31 then
      let total := if minus then shift - e else shift + e
      scaled (max (-Int.pow 2 31) (min (Int.pow 2 31 - 1) total))
    else if significand ≠ 0 ∧ !minus then none
    else some (signed 0)

end Rowgraph.Json
