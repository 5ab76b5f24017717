import Rowgraph.Toml.Lexeme
import Rowgraph.Toml.Scalar

/-!
# Reading TOML

A text is a list of lines: assignments, headers, comments and nothing. Arrays and inline tables may
go over several lines, with comments, and a comma may follow their last element. A byte order mark
in front is passed over.
-/

set_option autoImplicit false

namespace Rowgraph.Toml

/-- May the character stand in a word that does not begin with a quote? -/
def isWordPart (c : Char) : Bool := !"=,[]\x7b\x7d# \t\r\n".toList.contains c

/-- Does a word go on behind blanks? A quote there begins a string instead. -/
def goesOn (cs : List Char) : Bool :=
  match skipBlanks cs with
  | c :: _ => isWordPart c && c != '"' && c != '\''
  | [] => false

/-- A word that does not begin with a quote, and the text behind it. Blanks between its characters
belong to it, as the one in front of the time of a date does. -/
def cutWord : List Char → List Char × List Char
  | [] => ([], [])
  | c :: rest =>
    if isWordPart c || (isBlankChar c && goesOn rest) then
      let p := cutWord rest
      (c :: p.1, p.2)
    else ([], c :: rest)

/-- The greatest number of arrays and inline tables inside each other. -/
def maxDepth : Nat := 80

/-- The key of a field of an inline table, and the text from its value on. Line ends and comments
may stand on both sides of the equals sign. -/
def fieldStart? (cs : List Char) : Option (List String × String × List Char) := do
  let (path, key, rest) ← key? cs
  match ← skipLines? false rest with
  | '=' :: rest => return (path, key, ← skipLines? false rest)
  | _ => none

mutual

/-- A value and the text behind it. The fuel bounds the calls; `depth` is the number of arrays and
inline tables that may still be opened. -/
def value? : Nat → (depth : Nat) → List Char → Option (Toml × List Char)
  | 0, _, _ => none
  | _, 0, '[' :: _ => none
  | _, 0, '\x7b' :: _ => none
  | fuel + 1, depth + 1, '[' :: rest => (items? fuel depth rest).map fun p => (.array p.1, p.2)
  | fuel + 1, depth + 1, '\x7b' :: rest =>
    (fields? fuel depth [] rest).map fun p => (.table .inline p.1, p.2)
  | _ + 1, _, c :: rest =>
    if c = '"' ∨ c = '\'' then (string? (c :: rest)).map fun p => (.text (String.ofList p.1), p.2)
    else
      let (word, after) := cutWord (c :: rest)
      (word? word).map fun v => (v, after)
  | _ + 1, _, [] => none

/-- The items of an array up to its closing bracket. A comma may follow the last of them. -/
def items? : Nat → (depth : Nat) → List Char → Option (List Toml × List Char)
  | 0, _, _ => none
  | fuel + 1, depth, cs =>
    match skipLines? false cs with
    | none => none
    | some (']' :: after) => some ([], after)
    | some start =>
      match value? fuel depth start with
      | none => none
      | some (item, rest) =>
        match skipLines? false rest with
        | some (']' :: after) => some ([item], after)
        | some (',' :: after) => (items? fuel depth after).map fun p => (item :: p.1, p.2)
        | _ => none

/-- The fields of an inline table, added to those before, up to its closing brace. A comma may
follow the last of them. -/
def fields? : Nat → (depth : Nat) → Fields → List Char → Option (Fields × List Char)
  | 0, _, _, _ => none
  | fuel + 1, depth, fields, cs =>
    match skipLines? false cs with
    | none => none
    | some ('\x7d' :: after) => some (fields, after)
    | some start =>
      match fieldStart? start with
      | none => none
      | some (path, key, rest) =>
        match value? fuel depth rest with
        | none => none
        | some (value, rest) =>
          match addAt path key value .implied fields with
          | none => none
          | some (_, fields) =>
            match skipLines? false rest with
            | some ('\x7d' :: after) => some (fields, after)
            | some (',' :: after) => fields? fuel depth fields after
            | _ => none

end

/-- A value on its own. -/
def anyValue? (cs : List Char) : Option (Toml × List Char) :=
  value? (2 * cs.length + 2) maxDepth cs

/-- A header, from behind its opening brackets: the path of its table, its key, and the text behind
its closing brackets. -/
def header? (close : List Char) (cs : List Char) : Option (List String × String × List Char) :=
  match key? (skipBlanks cs) with
  | some (path, key, rest) =>
    if close.isPrefixOf rest then some (path, key, rest.drop close.length) else none
  | none => none

/-- What has been read: the table that assignments go into, and all tables. -/
structure Document where
  current : List String := []
  fields : Fields := []

namespace Document

/-- The document after a change of a table. -/
def changed (d : Document) (current path : List String) (change : Change) : Option Document :=
  (changeAt false change path .header d.fields).map fun p => ⟨current, p.2⟩

/-- Reads one line that holds a header or an assignment. -/
def line? (d : Document) (cs : List Char) : Option (Document × List Char) :=
  match cs with
  | '[' :: '[' :: rest => do
    let (path, key, rest) ← header? [']', ']'] rest
    let d ← d.changed (path ++ [key]) path (openElement key)
    return (d, ← skipLineEnd? false rest)
  | '[' :: rest => do
    let (path, key, rest) ← header? [']'] rest
    let d ← d.changed (path ++ [key]) path (openTable key)
    return (d, ← skipLineEnd? false rest)
  | cs =>
    match key? cs with
    | some (path, key, '=' :: rest) => do
      let (value, rest) ← anyValue? (skipBlanks rest)
      let d ← d.changed d.current d.current (addAt path key value)
      return (d, ← skipLineEnd? false rest)
    | _ => none

/-- Reads the lines of a text. The fuel bounds their number. -/
def lines? : Nat → Document → List Char → Option Document
  | 0, _, _ => none
  | fuel + 1, d, cs =>
    match skipLines? false cs with
    | none => none
    | some [] => some d
    | some start =>
      match line? d start with
      | none => none
      | some (d, rest) => lines? fuel d rest

end Document

/-- The text behind a byte order mark. -/
def dropMark : List Char → List Char
  | '\ufeff' :: rest => rest
  | cs => cs

/-- The fields of the table that a text describes. -/
def parse? (text : String) : Option Fields :=
  let cs := dropMark text.toList
  (Document.lines? (cs.length + 1) {} cs).map (·.fields)

end Rowgraph.Toml
