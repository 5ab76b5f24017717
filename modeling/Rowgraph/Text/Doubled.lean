/-!
# Text with a doubled closing character

Inside brackets and inside single quotes the closing character stands for itself when it is written
twice; all other characters are written once.
-/

set_option autoImplicit false

namespace Rowgraph.Doubled

/-- Writes `close` twice wherever it occurs. -/
def encode (close : Char) (cs : List Char) : List Char :=
  cs.flatMap fun c => if c = close then [close, close] else [c]

end Rowgraph.Doubled
