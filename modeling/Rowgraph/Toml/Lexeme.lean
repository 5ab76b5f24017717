import Rowgraph.Text.Hex

/-!
# Strings and keys in TOML

The characters between the values: blanks, line ends and comments; the four kinds of string; and
keys, bare, quoted or dotted. No string or comment holds a control other than a tab, and a carriage
return stands only before a line feed.
-/

set_option autoImplicit false

namespace Rowgraph.Toml

/-- May the character stand in a string or a comment as it is? -/
def isPlain (c : Char) : Bool := c == '\t' || (0x20 ≤ c.toNat && c.toNat ≠ 0x7F)

/-- Is the character a blank inside a line? -/
def isBlankChar (c : Char) : Bool := c == ' ' || c == '\t'

/-- The text after its leading blanks. -/
def skipBlanks (cs : List Char) : List Char := cs.dropWhile isBlankChar

/-- The text after blanks, line ends and comments; `comment` inside a comment. -/
def skipLines? : (comment : Bool) → List Char → Option (List Char)
  | _, [] => some []
  | _, '\n' :: rest => skipLines? false rest
  | _, '\r' :: '\n' :: rest => skipLines? false rest
  | true, c :: rest => if isPlain c then skipLines? true rest else none
  | false, c :: rest =>
    if c = '#' then skipLines? true rest
    else if isBlankChar c then skipLines? false rest
    else some (c :: rest)

/-- The text after the line end that has to follow, but for blanks and a comment. -/
def skipLineEnd? : (comment : Bool) → List Char → Option (List Char)
  | _, [] => some []
  | _, '\n' :: rest => some rest
  | _, '\r' :: '\n' :: rest => some rest
  | true, c :: rest => if isPlain c then skipLineEnd? true rest else none
  | false, c :: rest =>
    if c = '#' then skipLineEnd? true rest
    else if isBlankChar c then skipLineEnd? false rest
    else none

/-- What the next character of a string belongs to. -/
inductive Phase where
  /-- The text itself. -/
  | plain
  /-- An escape, behind its backslash. -/
  | escape
  /-- An escape by number: the digits left, and the number so far. -/
  | code (left value : Nat)
  /-- The blanks behind a backslash that ends its line. -/
  | lineEnd
  /-- The blanks and line ends that such a backslash takes away. -/
  | joining

/-- The character a one-letter escape stands for. -/
def escaped? : Char → Option Char
  | 'b' => some '\x08'
  | 't' => some '\t'
  | 'n' => some '\n'
  | 'f' => some '\x0c'
  | 'r' => some '\r'
  | 'e' => some '\x1b'
  | '"' => some '"'
  | '\\' => some '\\'
  | _ => none

/-- The character of a number, which is no half of a surrogate pair. -/
def scalar? (n : Nat) : Option Char := if n.isValidChar then some (Char.ofNat n) else none

/-- The phase behind one more digit of an escape by number, and the character if it was the last. -/
def codeStep? (left value : Nat) (c : Char) : Option (Phase × List Char) :=
  match Hex.value? c with
  | none => none
  | some d =>
    let next := 16 * value + d.val
    match left with
    | 0 => none
    | 1 => (scalar? next).map fun s => (.plain, [s])
    | left + 1 => some (.code left next, [])

/-- The phase behind the first character of an escape, and the character it stands for. -/
def escapeStep? (c : Char) : Option (Phase × List Char) :=
  if c = 'x' then some (.code 2 0, [])
  else if c = 'u' then some (.code 4 0, [])
  else if c = 'U' then some (.code 8 0, [])
  else (escaped? c).map fun s => (.plain, [s])

/-- A string of one line between double quotes, and the text behind it. -/
def basic? : Phase → List Char → Option (List Char × List Char)
  | .plain, '"' :: rest => some ([], rest)
  | .plain, '\\' :: rest => basic? .escape rest
  | .plain, c :: rest =>
    if isPlain c then (basic? .plain rest).map fun p => (c :: p.1, p.2) else none
  | .escape, c :: rest =>
    match escapeStep? c with
    | some (phase, out) => (basic? phase rest).map fun p => (out ++ p.1, p.2)
    | none => none
  | .code left value, c :: rest =>
    match codeStep? left value c with
    | some (phase, out) => (basic? phase rest).map fun p => (out ++ p.1, p.2)
    | none => none
  | _, _ => none

/-- A string of several lines between triple double quotes, and the text behind it. Up to two quotes
may stand before the closing three. -/
def basicLines? : Phase → List Char → Option (List Char × List Char)
  | .plain, '"' :: '"' :: '"' :: '"' :: '"' :: rest => some (['"', '"'], rest)
  | .plain, '"' :: '"' :: '"' :: '"' :: rest => some (['"'], rest)
  | .plain, '"' :: '"' :: '"' :: rest => some ([], rest)
  | .plain, '\\' :: rest => basicLines? .escape rest
  | .plain, '\n' :: rest => (basicLines? .plain rest).map fun p => ('\n' :: p.1, p.2)
  | .plain, '\r' :: '\n' :: rest =>
    (basicLines? .plain rest).map fun p => ('\r' :: '\n' :: p.1, p.2)
  | .plain, c :: rest =>
    if isPlain c then (basicLines? .plain rest).map fun p => (c :: p.1, p.2) else none
  | .escape, '\n' :: rest => basicLines? .joining rest
  | .escape, '\r' :: '\n' :: rest => basicLines? .joining rest
  | .escape, c :: rest =>
    if isBlankChar c then basicLines? .lineEnd rest
    else
      match escapeStep? c with
      | some (phase, out) => (basicLines? phase rest).map fun p => (out ++ p.1, p.2)
      | none => none
  | .code left value, c :: rest =>
    match codeStep? left value c with
    | some (phase, out) => (basicLines? phase rest).map fun p => (out ++ p.1, p.2)
    | none => none
  | .lineEnd, '\n' :: rest => basicLines? .joining rest
  | .lineEnd, '\r' :: '\n' :: rest => basicLines? .joining rest
  | .lineEnd, c :: rest => if isBlankChar c then basicLines? .lineEnd rest else none
  | .joining, '\n' :: rest => basicLines? .joining rest
  | .joining, '\r' :: '\n' :: rest => basicLines? .joining rest
  | .joining, '"' :: '"' :: '"' :: '"' :: '"' :: rest => some (['"', '"'], rest)
  | .joining, '"' :: '"' :: '"' :: '"' :: rest => some (['"'], rest)
  | .joining, '"' :: '"' :: '"' :: rest => some ([], rest)
  | .joining, '\\' :: rest => basicLines? .escape rest
  | .joining, c :: rest =>
    if isBlankChar c then basicLines? .joining rest
    else if isPlain c then (basicLines? .plain rest).map fun p => (c :: p.1, p.2)
    else none
  | _, [] => none

/-- A string of one line between single quotes, and the text behind it. It has no escapes. -/
def literal? : List Char → Option (List Char × List Char)
  | [] => none
  | '\'' :: rest => some ([], rest)
  | c :: rest => if isPlain c then (literal? rest).map fun p => (c :: p.1, p.2) else none

/-- A string of several lines between triple single quotes, and the text behind it. -/
def literalLines? : List Char → Option (List Char × List Char)
  | [] => none
  | '\'' :: '\'' :: '\'' :: '\'' :: '\'' :: rest => some (['\'', '\''], rest)
  | '\'' :: '\'' :: '\'' :: '\'' :: rest => some (['\''], rest)
  | '\'' :: '\'' :: '\'' :: rest => some ([], rest)
  | '\n' :: rest => (literalLines? rest).map fun p => ('\n' :: p.1, p.2)
  | '\r' :: '\n' :: rest => (literalLines? rest).map fun p => ('\r' :: '\n' :: p.1, p.2)
  | c :: rest => if isPlain c then (literalLines? rest).map fun p => (c :: p.1, p.2) else none

/-- The text after a line end, if it begins with one. -/
def dropLineEnd : List Char → List Char
  | '\n' :: rest => rest
  | '\r' :: '\n' :: rest => rest
  | cs => cs

/-- A string of any kind, and the text behind it. A line end right behind triple quotes is not part
of the string. -/
def string? : List Char → Option (List Char × List Char)
  | '"' :: '"' :: '"' :: rest => basicLines? .plain (dropLineEnd rest)
  | '"' :: rest => basic? .plain rest
  | '\'' :: '\'' :: '\'' :: rest => literalLines? (dropLineEnd rest)
  | '\'' :: rest => literal? rest
  | _ => none

/-- May the character stand in a key without quotes? -/
def isBare (c : Char) : Bool := c.isAlphanum || c == '_' || c == '-'

/-- One part of a key, and the text behind it. -/
def keyPart? : List Char → Option (String × List Char)
  | '"' :: rest => (basic? .plain rest).map fun p => (String.ofList p.1, p.2)
  | '\'' :: rest => (literal? rest).map fun p => (String.ofList p.1, p.2)
  | cs =>
    match cs.span isBare with
    | ([], _) => none
    | (name, rest) => some (String.ofList name, rest)

/-- A key of at most so many parts: the parts before its last one, its last one, and the text behind
it and the blanks after it. -/
def keyOf? : (parts : Nat) → List Char → Option (List String × String × List Char)
  | 0, _ => none
  | parts + 1, cs =>
    match keyPart? cs with
    | none => none
    | some (part, rest) =>
      match skipBlanks rest with
      | '.' :: rest =>
        (keyOf? parts (skipBlanks rest)).map fun (path, last, rest) => (part :: path, last, rest)
      | rest => some ([], part, rest)

/-- The greatest number of parts of a key. -/
def maxParts : Nat := 80

/-- A key, cut as `keyOf?` does. Blanks may stand around its dots, line ends may not. -/
def key? (cs : List Char) : Option (List String × String × List Char) := keyOf? maxParts cs

end Rowgraph.Toml
