/-!
# Patterns

The pattern of a LIKE that finds a given text inside, at the start or at the end of another. The
characters that a pattern gives a meaning are taken literally behind the escape character.
-/

set_option autoImplicit false

namespace Rowgraph

/-- Where in the subject the text is looked for. -/
inductive Place where
  | anywhere
  | start
  | ending
  deriving DecidableEq

namespace Like

/-- The character behind which the next one is taken literally. -/
def escapeMark : Char := '\\'

/-- The character that stands for any text. -/
def anyText : Char := '%'

/-- Does the character have a meaning of its own in a pattern? -/
def isSpecial (c : Char) : Bool := c == '%' || c == '_' || c == '[' || c == escapeMark

/-- The text as a pattern that matches it alone. -/
def escape (cs : List Char) : List Char :=
  cs.flatMap fun c => if isSpecial c then [escapeMark, c] else [c]

/-- The pattern for a text at a place. -/
def patternChars (place : Place) (cs : List Char) : List Char :=
  match place with
  | .anywhere => anyText :: escape cs ++ [anyText]
  | .start => escape cs ++ [anyText]
  | .ending => anyText :: escape cs

/-- The pattern for a text at a place. -/
def pattern (place : Place) (text : String) : String :=
  String.ofList (patternChars place text.toList)

end Like

end Rowgraph
