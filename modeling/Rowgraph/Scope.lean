import Rowgraph.Entity
import Rowgraph.Token

/-!
# Scopes

Which entity stands at each position of a statement, and the alias that its columns go under. A scope
can be cut to its first positions: a join sees no table that is joined after it.
-/

set_option autoImplicit false

namespace Rowgraph

/-- The entities of a statement by position. There may be fewer aliases than entities, or none. -/
structure Scope where
  entities : List Entity
  aliases : Option (List String) := none
  deriving DecidableEq

/-- A member found in a scope. -/
structure Resolved where
  position : Nat
  entity : Entity
  member : Member
  deriving DecidableEq

namespace Scope

/-- One entity without an alias. -/
def single (e : Entity) : Scope := ⟨[e], none⟩

/-- The scope cut to its first `n` positions. -/
def restrict (s : Scope) (n : Nat) : Scope :=
  ⟨s.entities.take n, s.aliases.map (·.take (min n s.entities.length))⟩

/-- The entity at a position. -/
def entity (s : Scope) (position : Nat) : Except Error Entity :=
  match s.entities[position]? with
  | some e => .ok e
  | none => .error (.positionOutOfScope position s.entities.length)

/-- The alias at a position. -/
def alias? (s : Scope) (position : Nat) : Option String :=
  s.aliases.bind fun aliases => aliases[position]?

/-- Finds a member. -/
def resolve (s : Scope) (ref : MemberRef) : Except Error Resolved := do
  let entity ← s.entity ref.position
  let member ← entity.resolve ref.name
  return ⟨ref.position, entity, member⟩

/-- The column of a member, behind the alias of its position if there is one. -/
def column (s : Scope) (r : Resolved) : List Token :=
  match s.alias? r.position with
  | some qualifier => [.alias qualifier, .word .dot, .ident r.member.columnName]
  | none => [.ident r.member.columnName]

end Scope

end Rowgraph
