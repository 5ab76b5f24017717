import Rowgraph.Write.Basic

/-!
# Deletions

A deletion takes the rows of one table that meet a condition; with joins, the condition may read the
joined tables too.
-/

set_option autoImplicit false

namespace Rowgraph.Generator

/-- Deletes the rows that meet a condition. -/
def delete (g : Generator) (e : Entity) (filter : Expr) : Except Error Command :=
  g.command do
    let condition ← Condition.bound (.single e) filter
    return Tokens.spaced .delete ++ Tokens.spaced .fromKw ++ [e.reference] ++
      Tokens.clause .whereKw condition.tokens

/-- Deletes the rows of the root that meet a condition together with their joined rows. -/
def deleteJoined (g : Generator) (e : Entity) (joins : List Join) (filter : Expr) :
    Except Error Command :=
  if joins.isEmpty then g.delete e filter
  else
    let entities := Join.entities e joins
    let scope : Scope := ⟨entities, some (Alias.ofEntities entities)⟩
    let root := Token.alias (Alias.ofName e.name 0)
    g.command do
      let clauses ← Join.clauses ⟨e, scope, g.registry, g.dirtyRead⟩ joins
      let condition ← Condition.bound scope filter
      return Tokens.spaced .delete ++ [root] ++
        Tokens.clause .fromKw [e.reference, .word .space, root] ++ clauses ++
        Tokens.clause .whereKw condition.tokens

end Rowgraph.Generator
