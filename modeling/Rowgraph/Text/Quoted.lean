import Rowgraph.Text.Hex
import Rowgraph.Unicode.Printable

/-!
# Quoted text

A text as it is shown inside a message: in double quotes, with escapes for quotes, backslashes,
common controls, and every character that cannot be shown on its own.
-/

set_option autoImplicit false

namespace Rowgraph.Quoted

/-- An escape by code point, in lower-case digits without leading zeros. -/
def codePoint (c : Char) : List Char :=
  ['\\', 'u', '\x7b'] ++ Nat.toDigits 16 c.toNat ++ ['\x7d']

/-- How one character is shown. -/
def encodeChar (c : Char) : List Char :=
  if c = '\x00' then ['\\', '0']
  else if c = '\t' then ['\\', 't']
  else if c = '\r' then ['\\', 'r']
  else if c = '\n' then ['\\', 'n']
  else if c = '\\' then ['\\', '\\']
  else if c = '"' then ['\\', '"']
  else if Unicode.isPrintable c then [c]
  else codePoint c

/-- The quoted form of a text. -/
def encode (text : String) : String :=
  String.ofList ('"' :: text.toList.flatMap encodeChar ++ ['"'])

end Rowgraph.Quoted
