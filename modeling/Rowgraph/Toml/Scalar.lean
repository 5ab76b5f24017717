import Rowgraph.Text.Hex
import Rowgraph.Toml.Basic

/-!
# Numbers and dates in TOML

Which characters make an integer, a float, a truth value, or a date with or without a time of day.
Underscores may part the digits of a number, one at a time. Some words pass for numbers by their
form and yet have no value: those too large, those without digits behind the mark of a base, and
those that go astray behind an underscore.
-/

set_option autoImplicit false

namespace Rowgraph.Toml

/-- Digits without the underscores between them. -/
def ungrouped? (isDigit : Char → Bool) : List Char → Option (List Char)
  | [] => none
  | [c] => if isDigit c then some [c] else none
  | c :: '_' :: rest => if isDigit c then (ungrouped? isDigit rest).map (c :: ·) else none
  | c :: next :: rest =>
    if isDigit c then (ungrouped? isDigit (next :: rest)).map (c :: ·) else none

/-- The number that digits write in a base. -/
def natOf (base : Nat) (ds : List Char) : Nat :=
  ds.foldl (fun n c => base * n + ((Hex.value? c).map Fin.val).getD 0) 0

/-- A sign, set for minus, and the text behind it. -/
def sign : List Char → Bool × List Char
  | '-' :: rest => (true, rest)
  | '+' :: rest => (false, rest)
  | cs => (false, cs)

/-- Digits of a decimal number, which has no superfluous zero in front. -/
def decimal? (cs : List Char) : Option (List Char) :=
  match ungrouped? Char.isDigit cs with
  | some ('0' :: _ :: _) => none
  | found => found

/-- An integer as written. -/
def anyInteger? : List Char → Option Int
  | '0' :: 'x' :: ds => (ungrouped? (fun c => (Hex.value? c).isSome) ds).map fun ds => natOf 16 ds
  | '0' :: 'o' :: ds => (ungrouped? (fun c => '0' ≤ c && c ≤ '7') ds).map fun ds => natOf 8 ds
  | '0' :: 'b' :: ds => (ungrouped? (fun c => c == '0' || c == '1') ds).map fun ds => natOf 2 ds
  | cs =>
    let (negative, ds) := sign cs
    (decimal? ds).map fun ds => if negative then -(natOf 10 ds : Int) else natOf 10 ds

/-- An integer. It fits a hundred and twenty-eight bits, with a sign or without. -/
def integer? (cs : List Char) : Option Int :=
  (anyInteger? cs).filter fun n => -Int.pow 2 127 ≤ n && n < Int.pow 2 128

/-- A float: its digits before the point, those behind it, and its exponent. -/
structure FloatParts where
  whole : List Char
  fraction : List Char
  exponent : Int

/-- The exponent of a float, from behind its mark. -/
def exponent? (cs : List Char) : Option Int :=
  let (negative, ds) := sign cs
  (ungrouped? Char.isDigit ds).map fun ds => if negative then -(natOf 10 ds : Int) else natOf 10 ds

/-- The parts of a float without its sign. It has a fraction, an exponent or both. -/
def floatParts? (cs : List Char) : Option FloatParts := do
  let (mantissa, exponent) := cs.span fun c => c != 'e' && c != 'E'
  let (whole, fraction) := mantissa.span fun c => c != '.'
  if fraction.isEmpty && exponent.isEmpty then none
  else
    let whole ← decimal? whole
    let fraction ← if fraction.isEmpty then some [] else ungrouped? Char.isDigit (fraction.drop 1)
    let exponent ← if exponent.isEmpty then some 0 else exponent? (exponent.drop 1)
    return ⟨whole, fraction, exponent⟩

/-- The least number, above all doubles, that no longer rounds to a double. -/
def overflowBound : Nat := Nat.pow 2 1024 - Nat.pow 2 970

/-- Does the number fit a double? Only numbers near the bound have to be compared with it. -/
def FloatParts.isFinite (p : FloatParts) : Bool :=
  let digits := (p.whole ++ p.fraction).dropWhile fun c => c == '0'
  let exponent := p.exponent - p.fraction.length
  let length := digits.length + exponent
  if digits.isEmpty || length < 308 then true
  else if 310 < length then false
  else
    let n := natOf 10 digits
    if 0 ≤ exponent then n * Nat.pow 10 exponent.toNat < overflowBound
    else n < overflowBound * Nat.pow 10 (-exponent).toNat

/-- Is it a float? Infinity and NaN are words. -/
def isFloat (cs : List Char) : Bool :=
  let body := (sign cs).2
  body == "inf".toList || body == "nan".toList || ((floatParts? body).map (·.isFinite)).getD false

/-- A number of two digits in a range. -/
def twoDigits? (least greatest : Nat) : List Char → Option (Nat × List Char)
  | a :: b :: rest =>
    let n := natOf 10 [a, b]
    if a.isDigit && b.isDigit && least ≤ n && n ≤ greatest then some (n, rest) else none
  | _ => none

/-- The text behind a mark. -/
def behind? (mark : Char) : List Char → Option (List Char)
  | c :: rest => if c = mark then some rest else none
  | [] => none

/-- The number of days of a month. -/
def daysIn (year month : Nat) : Nat :=
  if month = 2 then
    if year % 4 = 0 ∧ (year % 100 ≠ 0 ∨ year % 400 = 0) then 29 else 28
  else if month = 4 ∨ month = 6 ∨ month = 9 ∨ month = 11 then 30
  else 31

/-- The text behind a day of the calendar. -/
def date? (cs : List Char) : Option (List Char) := do
  let (century, cs) ← twoDigits? 0 99 cs
  let (year, cs) ← twoDigits? 0 99 cs
  let (month, cs) ← twoDigits? 1 12 (← behind? '-' cs)
  let (_, cs) ← twoDigits? 1 (daysIn (100 * century + year) month) (← behind? '-' cs)
  return cs

/-- The text behind the seconds of a time and their fraction. A minute may have a leap second. -/
def seconds? (cs : List Char) : Option (List Char) := do
  let (_, cs) ← twoDigits? 0 60 cs
  match cs with
  | '.' :: rest =>
    match rest.span Char.isDigit with
    | ([], _) => none
    | (_, rest) => some rest
  | _ => some cs

/-- The text behind a time of day, which may do without seconds. -/
def time? (cs : List Char) : Option (List Char) := do
  let (_, cs) ← twoDigits? 0 23 cs
  let (_, cs) ← twoDigits? 0 59 (← behind? ':' cs)
  match cs with
  | ':' :: rest => seconds? rest
  | _ => some cs

/-- Is it an offset from universal time, or none? -/
def isOffset (cs : List Char) : Bool :=
  match cs with
  | [] => true
  | ['Z'] => true
  | ['z'] => true
  | c :: rest =>
    (c == '+' || c == '-') && ((do
      let (_, rest) ← twoDigits? 0 23 rest
      let (_, rest) ← twoDigits? 0 59 (← behind? ':' rest)
      return rest.isEmpty : Option Bool)).getD false

/-- Is it a date, a time, or both? -/
def isMoment (cs : List Char) : Bool :=
  match date? cs with
  | some [] => true
  | some (c :: rest) =>
    (c == 'T' || c == 't' || c == ' ') && ((time? rest).map isOffset).getD false
  | none => time? cs == some []

/-- Does each underscore stand between two hexadecimal digits? `before` is the character in front
of the text. -/
def isGrouped : (before : Char) → List Char → Bool
  | _, [] => true
  | before, c :: rest =>
    (c != '_' || ((Hex.value? before).isSome && (rest.head?.bind Hex.value?).isSome))
      && isGrouped c rest

/-- Does the word begin with decimal digits and an underscore, and hold no mark of a float and no
space behind it? That is the form of a decimal integer, whatever else stands there. -/
def passesForInteger (cs : List Char) : Bool :=
  match (sign cs).2.span Char.isDigit with
  | (first :: _, '_' :: rest) =>
    first != '0' && isGrouped first ('_' :: rest)
      && rest.all fun c => c != '.' && c != 'e' && c != 'E' && c != ' '
  | _ => false

/-- Has the word the form of a number? -/
def passesForNumber (cs : List Char) : Bool :=
  (anyInteger? cs).isSome || cs ∈ ["0x".toList, "0o".toList, "0b".toList]
    || (floatParts? (sign cs).2).isSome || passesForInteger cs

/-- The value of a word without quotes. -/
def word? (cs : List Char) : Option Toml :=
  if cs = "true".toList then some (.bool true)
  else if cs = "false".toList then some (.bool false)
  else
    match integer? cs with
    | some n => some (.integer n)
    | none =>
      if isFloat cs then some (.float cs)
      else if isMoment cs then some (.moment cs)
      else if passesForNumber cs then some (.unreadable cs)
      else none

end Rowgraph.Toml
