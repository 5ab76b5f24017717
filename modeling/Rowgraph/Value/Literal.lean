import Rowgraph.Text.Doubled
import Rowgraph.Value.Basic

/-!
# Literals

A value as the server's language writes it: what an inline placeholder is replaced by.
-/

set_option autoImplicit false

namespace Rowgraph.Value

/-- A literal number from a hundred-thousandth up to, but not including, ten to the sixteenth is
written with a point, and of two nearest decimals the even one is taken. -/
def literalNotation : Notation where
  plainFrom := -5
  plainBelow := 16
  tie := .toEven

/-- The characters of a literal. A text is a national string with its quotes doubled, bytes are
hexadecimal digits after `0x`. -/
def literalChars : Value → List Char
  | .null => ['N', 'U', 'L', 'L']
  | .bool b => if b then ['1'] else ['0']
  | .int n => (toString n.toInt).toList
  | .float x => (x.render literalNotation).toList
  | .text s => ['N', '\''] ++ Doubled.encode '\'' s.toList ++ ['\'']
  | .bytes bs => ['0', 'x'] ++ bs.flatMap Hex.upperByte
  | .uuid u => ['\''] ++ u.toChars ++ ['\'']

/-- The literal of a value. -/
def literal (v : Value) : String := String.ofList v.literalChars

end Rowgraph.Value
