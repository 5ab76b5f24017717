import Rowgraph.Locator
import Rowgraph.Token

/-!
# Table references

How a statement names a table. A joined table that lies in another database of the same server is
named by its full path, since a shorter name would be looked for in the root's database.
-/

set_option autoImplicit false

namespace Rowgraph.Entity

/-- The table, with its schema if the entity declares one. -/
def reference (e : Entity) : Token := .table none e.schema e.tableName

/-- The table of `joined` in a statement whose root is `root`, given where the two lie. -/
def referenceBetween (root joined : Entity) (base target : Locator) : Except Error Token :=
  if !base.sameServer target then .error (.differentServer root.name joined.name)
  else if base.sameDatabase target then .ok joined.reference
  else
    match target.database with
    | none => .error (.unknownDatabase root.name joined.name)
    | some database =>
      .ok (.table (some database) (joined.schema.or target.schema) joined.tableName)

/-- The table of `joined` in a statement whose root is `root`. Without connections all tables lie in
one database. -/
def referenceFrom (root joined : Entity) (registry : Registry) : Except Error Token :=
  if registry.isEmpty then .ok joined.reference
  else do
    let base ← registry.resolve root
    let target ← registry.resolve joined
    referenceBetween root joined base target

end Rowgraph.Entity
