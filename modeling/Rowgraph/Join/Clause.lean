import Rowgraph.Condition
import Rowgraph.Join.Basic
import Rowgraph.Reference

/-!
# Join clauses

The text of a chain. Each condition is compiled in the scope cut behind its own table, so that it
cannot read a table that is joined later.
-/

set_option autoImplicit false

namespace Rowgraph.Join

/-- The word of a kind of join. -/
def kindWord : JoinKind → Word
  | .inner => .inner
  | .left => .left

/-- The alias of a position behind a space, if it has one. -/
def aliasTokens (scope : Scope) (position : Nat) : List Token :=
  match scope.alias? position with
  | some qualifier => [.word .space, .alias qualifier]
  | none => []

/-- The hint behind a table that is read, if uncommitted rows may be seen. -/
def hint (dirtyRead : Bool) : List Token :=
  if dirtyRead then [.word .space, .word .noLock] else []

/-- What the clauses of a chain have in common. -/
structure Context where
  root : Entity
  scope : Scope
  registry : Registry
  dirtyRead : Bool

/-- The clause of a join at a position. -/
def clauseAt (c : Context) (position : Nat) (j : Join) : BindM (List Token) := do
  let table ← liftM (m := Except Error) (c.root.referenceFrom j.entity c.registry)
  match j.condition with
  | none => throw (.missingJoinCondition j.entity.name)
  | some condition =>
    let compiled ← Condition.bound (c.scope.restrict (position + 1)) condition
    return [.word .space] ++ Tokens.spaced (kindWord j.kind) ++ Tokens.spaced .join ++ [table] ++
      aliasTokens c.scope position ++ hint c.dirtyRead ++ Tokens.clause .on compiled.tokens

/-- The clauses of a part of a chain that begins at a position. -/
def clausesFrom (c : Context) : Nat → List Join → BindM (List Token)
  | _, [] => return []
  | position, j :: rest => do
    let clause ← clauseAt c position j
    return clause ++ (← clausesFrom c (position + 1) rest)

/-- The clauses of a chain, which is checked first. -/
def clauses (c : Context) (joins : List Join) : BindM (List Token) := do
  liftM (m := Except Error) (check joins)
  clausesFrom c 1 joins

end Rowgraph.Join
