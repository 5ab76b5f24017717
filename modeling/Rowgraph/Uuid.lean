import Rowgraph.Text.Hex

/-!
# UUIDs

A UUID is thirty-two hexadecimal digits. It is written in lower case with four hyphens and read from
that form, from the bare digits, and from the hyphenated form in braces or after `urn:uuid:`, in any
case.
-/

set_option autoImplicit false

namespace Rowgraph

/-- A UUID, by its digits. -/
structure Uuid where
  digits : List (Fin 16)
  length_digits : digits.length = 32
  deriving DecidableEq

namespace Uuid

/-- The UUID of thirty-two zeros. -/
def nil : Uuid := ⟨List.replicate 32 ⟨0, by decide⟩, by decide⟩

/-- Is it the UUID of zeros? -/
def isNil (u : Uuid) : Bool := u == nil

/-- Hyphens after the first eight digits and then after every four, three times. -/
def hyphenate (cs : List Char) : List Char :=
  cs.take 8 ++ '-' :: ((cs.drop 8).take 4) ++ '-' :: ((cs.drop 12).take 4)
    ++ '-' :: ((cs.drop 16).take 4) ++ '-' :: cs.drop 20

/-- The hyphenated lower-case form. -/
def toChars (u : Uuid) : List Char := hyphenate (u.digits.map Hex.lowerDigit)

instance : ToString Uuid := ⟨fun u => String.ofList u.toChars⟩

/-- The UUID of exactly thirty-two digits. -/
def ofDigits? (cs : List Char) : Option Uuid :=
  match cs.mapM Hex.value? with
  | some digits => if h : digits.length = 32 then some ⟨digits, h⟩ else none
  | none => none

/-- The UUID of digits with hyphens in the four places. -/
def ofHyphenated? (cs : List Char) : Option Uuid :=
  let bare := cs.take 8 ++ (cs.drop 9).take 4 ++ (cs.drop 14).take 4 ++ (cs.drop 19).take 4
    ++ cs.drop 24
  if hyphenate bare = cs then ofDigits? bare else none

/-- Reads any of the four forms. -/
def parse? (text : String) : Option Uuid :=
  let cs := text.toList
  if cs.length = 32 then ofDigits? cs
  else if cs.length = 36 then ofHyphenated? cs
  else if cs.length = 38 ∧ cs.head? = some '\x7b' ∧ cs.getLast? = some '\x7d' then
    ofHyphenated? (cs.drop 1).dropLast
  else if cs.length = 45 ∧ (cs.take 9).map Char.toLower = "urn:uuid:".toList then
    ofHyphenated? (cs.drop 9)
  else none

end Uuid

end Rowgraph
