import Rowgraph.Object

/-!
# Caches

Two things are worked out once and kept until a purge: the setter of a navigation, by the types at
its ends and its name, and the members an insertion has to give, by the name of the entity. What is
kept first stays, whatever is offered under the same key later.
-/

set_option autoImplicit false

namespace Rowgraph

/-- What a setter is kept under. -/
structure SetterKey where
  parent : Nat
  child : Nat
  navigation : String
  deriving DecidableEq

/-- What is kept. -/
structure Caches where
  setters : List (SetterKey × Setter) := []
  required : List (String × List Member) := []

/-- The key of a navigation. -/
def Navigation.key (n : Navigation) : SetterKey := ⟨n.owner, n.child.id, n.name⟩

namespace Caches

/-- Nothing kept. -/
def empty : Caches := {}

/-- The setter kept under a key, after keeping the one offered if there was none. -/
def setter (c : Caches) (key : SetterKey) (offered : Setter) : Setter × Caches :=
  match c.setters.lookup key with
  | some kept => (kept, c)
  | none => (offered, { c with setters := c.setters ++ [(key, offered)] })

/-- The members kept for an entity's name, after keeping those of the entity if there were none. -/
def requiredMembers (c : Caches) (e : Entity) : List Member × Caches :=
  match c.required.lookup e.name with
  | some kept => (kept, c)
  | none => (e.required, { c with required := c.required ++ [(e.name, e.required)] })

/-- The caches after a purge. -/
def purge (_ : Caches) : Caches := empty

/-- A purge leaves no setter. -/
@[simp] theorem setters_purge (c : Caches) : c.purge.setters = [] := rfl

/-- A purge leaves no required members either. -/
@[simp] theorem required_purge (c : Caches) : c.purge.required = [] := rfl

/-- The number of setters kept. -/
def setterCount (c : Caches) : Nat := c.setters.length

end Caches

end Rowgraph
