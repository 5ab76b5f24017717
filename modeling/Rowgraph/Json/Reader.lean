import Rowgraph.Json.Basic

/-!
# Reading JSON

The reader takes exactly the JSON grammar: blanks are space, tab, line feed and carriage return, a
number has no superfluous zero in front, a string holds no bare control, and nothing but blanks
follows the value.
-/

set_option autoImplicit false

namespace Rowgraph.Json

/-- The text after its leading blanks. -/
def skipBlanks : List Char → List Char
  | ' ' :: rest => skipBlanks rest
  | '\t' :: rest => skipBlanks rest
  | '\n' :: rest => skipBlanks rest
  | '\r' :: rest => skipBlanks rest
  | cs => cs

/-- The character a one-letter escape stands for. -/
def escaped? : Char → Option Nat
  | '"' => some 0x22
  | '\\' => some 0x5C
  | '/' => some 0x2F
  | 'b' => some 0x08
  | 'f' => some 0x0C
  | 'n' => some 0x0A
  | 'r' => some 0x0D
  | 't' => some 0x09
  | _ => none

/-- The code units and code points of a string up to its closing quote, and the text after it. -/
def stringCodes? : List Char → Option (List Nat × List Char)
  | [] => none
  | '"' :: rest => some ([], rest)
  | '\\' :: 'u' :: a :: b :: c :: d :: rest =>
    match Hex.number? [a, b, c, d], stringCodes? rest with
    | some code, some (codes, after) => some (code :: codes, after)
    | _, _ => none
  | '\\' :: e :: rest =>
    match escaped? e, stringCodes? rest with
    | some code, some (codes, after) => some (code :: codes, after)
    | _, _ => none
  | c :: rest =>
    if c = '\\' ∨ c.toNat < 0x20 then none
    else
      match stringCodes? rest with
      | some (codes, after) => some (c.toNat :: codes, after)
      | none => none

/-- Is the code the first half of a surrogate pair? -/
def isLeading (code : Nat) : Bool := 0xD800 ≤ code && code ≤ 0xDBFF

/-- Is the code the second half of a surrogate pair? -/
def isTrailing (code : Nat) : Bool := 0xDC00 ≤ code && code ≤ 0xDFFF

/-- Joins surrogate pairs; there is no text where a half stands alone. -/
def joinPairs? : List Nat → Option (List Char)
  | [] => some []
  | [code] => if isLeading code || isTrailing code then none else some [Char.ofNat code]
  | code :: next :: rest =>
    if isLeading code then
      if isTrailing next then
        (joinPairs? rest).map
          (Char.ofNat (0x10000 + (code - 0xD800) * 0x400 + (next - 0xDC00)) :: ·)
      else none
    else if isTrailing code then none
    else (joinPairs? (next :: rest)).map (Char.ofNat code :: ·)

/-- A string after its opening quote. -/
def string? (cs : List Char) : Option (Option String × List Char) :=
  (stringCodes? cs).map fun p => ((joinPairs? p.1).map String.ofList, p.2)

/-- Digits and the text after them. -/
def digits (cs : List Char) : List Char × List Char := cs.span Char.isDigit

/-- A whole number without a superfluous zero. -/
def whole? (cs : List Char) : Option (List Char × List Char) :=
  match digits cs with
  | ([], _) => none
  | ('0' :: _ :: _, _) => none
  | (ds, rest) => some (ds, rest)

/-- A fraction, if a point follows. -/
def fraction? : List Char → Option (List Char × List Char)
  | '.' :: rest =>
    match digits rest with
    | ([], _) => none
    | (ds, after) => some ('.' :: ds, after)
  | cs => some ([], cs)

/-- The digits of an exponent after its sign. -/
def exponentDigits? (mark : List Char) (cs : List Char) : Option (List Char × List Char) :=
  match digits cs with
  | ([], _) => none
  | (ds, after) => some (mark ++ ds, after)

/-- An exponent, if its mark follows. -/
def exponent? : List Char → Option (List Char × List Char)
  | c :: rest =>
    if c = 'e' ∨ c = 'E' then
      match rest with
      | '+' :: after => exponentDigits? ['e', '+'] after
      | '-' :: after => exponentDigits? ['e', '-'] after
      | _ => exponentDigits? ['e'] rest
    else some ([], c :: rest)
  | [] => some ([], [])

/-- The characters of a number and the text after them. -/
def number? (cs : List Char) : Option (List Char × List Char) := do
  let (sign, cs) := match cs with
    | '-' :: rest => (['-'], rest)
    | _ => ([], cs)
  let (whole, cs) ← whole? cs
  let (fraction, cs) ← fraction? cs
  let (exponent, cs) ← exponent? cs
  some (sign ++ whole ++ fraction ++ exponent, cs)

mutual

/-- A value and the text after it. The fuel bounds the calls, two for each character at most. -/
def value? : Nat → List Char → Option (Json × List Char)
  | 0, _ => none
  | fuel + 1, cs =>
    match skipBlanks cs with
    | 'n' :: 'u' :: 'l' :: 'l' :: rest => some (.null, rest)
    | 't' :: 'r' :: 'u' :: 'e' :: rest => some (.bool true, rest)
    | 'f' :: 'a' :: 'l' :: 's' :: 'e' :: rest => some (.bool false, rest)
    | '"' :: rest => (string? rest).map fun p => (.string p.1, p.2)
    | '[' :: rest =>
      match skipBlanks rest with
      | ']' :: after => some (.array [], after)
      | _ => (items? fuel rest).map fun p => (.array p.1, p.2)
    | '\x7b' :: rest =>
      match skipBlanks rest with
      | '\x7d' :: after => some (.object [], after)
      | _ => (fields? fuel rest).map fun p => (.object p.1, p.2)
    | c :: rest =>
      if c = '-' ∨ c.isDigit then (number? (c :: rest)).map fun p => (.number p.1, p.2)
      else none
    | [] => none

/-- The items of an array up to its closing bracket. -/
def items? : Nat → List Char → Option (List Json × List Char)
  | 0, _ => none
  | fuel + 1, cs =>
    match value? fuel cs with
    | none => none
    | some (item, rest) =>
      match skipBlanks rest with
      | ']' :: after => some ([item], after)
      | ',' :: after => (items? fuel after).map fun p => (item :: p.1, p.2)
      | _ => none

/-- The fields of an object up to its closing brace. -/
def fields? : Nat → List Char → Option (List (Option String × Json) × List Char)
  | 0, _ => none
  | fuel + 1, cs =>
    match skipBlanks cs with
    | '"' :: rest =>
      match string? rest with
      | none => none
      | some (name, rest) =>
        match skipBlanks rest with
        | ':' :: rest =>
          match value? fuel rest with
          | none => none
          | some (item, rest) =>
            match skipBlanks rest with
            | '\x7d' :: after => some ([(name, item)], after)
            | ',' :: after => (fields? fuel after).map fun p => ((name, item) :: p.1, p.2)
            | _ => none
        | _ => none
    | _ => none

end

/-- The value that a text writes. -/
def parse? (text : String) : Option Json :=
  let cs := text.toList
  match value? (2 * cs.length + 2) cs with
  | some (json, rest) => if skipBlanks rest = [] then some json else none
  | none => none

end Rowgraph.Json
