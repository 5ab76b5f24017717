import Rowgraph.Entity
import Rowgraph.Unicode.Alphanumeric
import Rowgraph.Unicode.Lowercase

/-!
# Aliases

A table goes under the consonants of its entity's name and the number of its position, counted from
one. A name with fewer than two consonants gives its first three letters or digits instead.
-/

set_option autoImplicit false

namespace Rowgraph.Alias

/-- The five vowels. -/
def isVowel (c : Char) : Bool := ['a', 'e', 'i', 'o', 'u'].contains c

/-- The letters and digits of a name in lower case. -/
def letters (name : String) : List Char :=
  (Unicode.lowercase name.toList).filter Unicode.isAlphanumeric

/-- The part of an alias that comes from the name. -/
def stem (name : String) : List Char :=
  let skeleton := (letters name).filter fun c => !isVowel c
  if skeleton.length < 2 then (letters name).take 3 else skeleton

/-- The alias of an entity's name at a position. -/
def ofName (name : String) (position : Nat) : String :=
  String.ofList (stem name) ++ toString (position + 1)

/-- The aliases of a chain of entities, by position. -/
def ofEntities (entities : List Entity) : List String :=
  entities.mapIdx fun position e => ofName e.name position

end Rowgraph.Alias
