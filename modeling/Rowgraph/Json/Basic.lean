import Rowgraph.Value.Literal

/-!
# JSON texts

A JSON value as written: a number keeps its characters, an object the order of its fields. The
compact text has no spaces and escapes only quotes, backslashes and controls.
-/

set_option autoImplicit false

namespace Rowgraph

/-- A JSON value. A string is `none` where an escape wrote half of a surrogate pair: such a string is
well formed, and is no text. -/
inductive Json where
  | null
  | bool (b : Bool)
  | number (lexeme : List Char)
  | string (text : Option String)
  | array (items : List Json)
  | object (fields : List (Option String × Json))

namespace Json

/-- How one character is written inside a string. -/
def escapeChar (c : Char) : List Char :=
  if c = '"' then ['\\', '"']
  else if c = '\\' then ['\\', '\\']
  else if c = '\x08' then ['\\', 'b']
  else if c = '\t' then ['\\', 't']
  else if c = '\n' then ['\\', 'n']
  else if c = '\x0c' then ['\\', 'f']
  else if c = '\r' then ['\\', 'r']
  else if c.toNat < 0x20 then
    ['\\', 'u', '0', '0'] ++ Hex.lowerByte c.toNat.toUInt8
  else [c]

/-- A string with its quotes; a string that is no text is written empty. -/
def renderString (text : Option String) : List Char :=
  '"' :: ((text.getD "").toList.flatMap escapeChar) ++ ['"']

mutual

/-- The compact text of a value. -/
def render : Json → List Char
  | .null => ['n', 'u', 'l', 'l']
  | .bool b => if b then ['t', 'r', 'u', 'e'] else ['f', 'a', 'l', 's', 'e']
  | .number lexeme => lexeme
  | .string text => renderString text
  | .array items => '[' :: renderItems items ++ [']']
  | .object fields => '\x7b' :: renderFields fields ++ ['\x7d']

/-- The items of an array, between commas. -/
def renderItems : List Json → List Char
  | [] => []
  | [item] => render item
  | item :: next :: rest => render item ++ ',' :: renderItems (next :: rest)

/-- The fields of an object, between commas. -/
def renderFields : List (Option String × Json) → List Char
  | [] => []
  | [(name, value)] => renderString name ++ ':' :: render value
  | (name, value) :: next :: rest =>
    renderString name ++ ':' :: render value ++ ',' :: renderFields (next :: rest)

end

/-- The compact text of a value. -/
def compact (json : Json) : String := String.ofList json.render

/-- A string value. -/
def ofText (s : String) : Json := .string (some s)

/-- An integer value. -/
def ofInt (n : Int) : Json := .number (toString n).toList

/-- An object with the given fields. -/
def ofFields (fields : List (String × Json)) : Json :=
  .object (fields.map fun f => (some f.1, f.2))

end Json

end Rowgraph
