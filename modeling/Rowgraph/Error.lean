import Rowgraph.Expr
import Rowgraph.Value.Field

/-!
# Errors

Why a statement cannot be made, run or read back. An error is its cause; the text and the broad
category are functions of it. Shape and topology errors concern the request and the places of its
tables, execution errors the server's answer, configuration errors the settings.
-/

set_option autoImplicit false

namespace Rowgraph

/-- What an expression, or a request, may not be where it stands. -/
inductive Unsupported where
  | condition (found : Expr)
  | negatedJunction
  | negated (found : Expr)
  | leftSide (found : Expr)
  | rightSide (found : Expr)
  | orderAgainstNull (op : Comparison)
  | listMember (name : String)
  | listSource (found : Expr)
  | receiver (method : Method) (found : Expr)
  | pattern (found : Expr)
  | selected (found : Expr)
  | groupingColumn (found : Expr)
  | missingArgument (function : Aggregate)
  | aggregateArgument (found : Expr)
  | ungrouped (name : String)
  | projected (found : Expr)
  | ordering (found : Expr)
  | groupedOrdering (found : Expr)
  | noAssignments (entity : String)
  | noInsertable (entity : String)
  | emptyMatch
  | nothingToUpdate (entity : String)
  deriving DecidableEq

/-- The clauses that hold a row count. -/
inductive CountClause where
  | top
  | offset
  | fetch
  deriving DecidableEq

/-- Why rows cannot be turned into objects. -/
inductive ResultError where
  | field (cause : FieldError)
  | splitMisfit (column : String) (offset width : Nat)
  | splitCount (joins points : Nat)
  | unboundJoin (entity : String)
  | foreignParent (navigation : String)
  | foreignChild (navigation : String)
  /-- The report of an object type or a setter of the application. -/
  | reported (text : String)
  deriving DecidableEq

/-- Why settings cannot be used. -/
inductive SettingsError where
  | fileNotFound (path : String)
  | unreadable (path : String)
  | malformed
  | missingVariable (name : String)
  | connectionNotFound (name : String)
  | invalidConnectionString (name : String) (reason : String)
  deriving DecidableEq

/-- An error the driver reported. -/
structure DriverError where
  code : Int
  message : String
  deriving DecidableEq

/-- An error of the library. -/
inductive Error where
  | notMapped (entity member : String)
  | unknownMember (entity member : String)
  | unsupported (cause : Unsupported)
  | positionOutOfScope (position declared : Nat)
  | nullInComposite
  | emptySelection
  | uncoveredJoin (entity : String)
  | groupingMismatch
  | missingJoinCondition (entity : String)
  | invalidNavigation (entity : String) (parent : Nat)
  | joinFanOut (tables : Nat)
  | countOutOfRange (clause : CountClause) (value : Nat)
  | missingRequired (entity : String) (members : List String)
  | missingTableType (entity : String)
  | emptyBulk (entity : String)
  | connectionNotDeclared (name : String)
  | ambiguousConnection (entity : String)
  | differentServer (base joined : String)
  | unknownDatabase (base joined : String)
  | driver (cause : DriverError)
  | result (cause : ResultError)
  | settings (cause : SettingsError)
  deriving DecidableEq

/-- The broad class of an error. -/
inductive Category where
  | shape
  | topology
  | execution
  | config
  deriving DecidableEq

/-- The text of the cause. -/
def Unsupported.message : Unsupported → String
  | .condition e => e.describe ++ " is not a condition"
  | .negatedJunction => "NOT over AND/OR"
  | .negated e => "NOT over " ++ e.describe
  | .leftSide e => "left side must be a mapped member, found " ++ e.describe
  | .rightSide e => "right side must be a value or member, found " ++ e.describe
  | .orderAgainstNull op => op.label ++ " against NULL"
  | .listMember name => "list source `" ++ name ++ "` must be a literal or captured list"
  | .listSource e => "list source must be a literal or captured list, found " ++ e.describe
  | .receiver method e => method.label ++ " on " ++ e.describe
  | .pattern e => "pattern must be a text value, found " ++ e.describe
  | .selected e => "selector item must be a member, found " ++ e.describe
  | .groupingColumn e => "grouping column must be a member, found " ++ e.describe
  | .missingArgument function => function.functionName ++ " needs an argument"
  | .aggregateArgument e => "aggregate argument must be a member, found " ++ e.describe
  | .ungrouped name => "`" ++ name ++ "` is projected but not grouped"
  | .projected e =>
    "grouping projection item must be an aggregate or member, found " ++ e.describe
  | .ordering e => "ordering must be a member, found " ++ e.describe
  | .groupedOrdering e =>
    "ordering of a grouped query must name a projected column, found " ++ e.describe
  | .noAssignments entity => "no columns assigned for `" ++ entity ++ "`"
  | .noInsertable entity => "`" ++ entity ++ "` has no insertable members"
  | .emptyMatch => "bulk match template reads no members"
  | .nothingToUpdate entity =>
    "`" ++ entity ++ "` has no columns to update outside the match template"

/-- The word that names the clause. -/
def CountClause.word : CountClause → String
  | .top => "TOP"
  | .offset => "OFFSET"
  | .fetch => "FETCH"

/-- The text of the cause. -/
def ResultError.message : ResultError → String
  | .field cause => cause.message
  | .splitMisfit column offset width =>
    "split column `" ++ column ++ "` at offset " ++ toString offset ++
      " does not fit a row of " ++ toString width ++ " columns"
  | .splitCount joins points =>
    toString joins ++ " joined tables but " ++ toString points ++ " split points"
  | .unboundJoin entity => "join to `" ++ entity ++ "` is not bound to a navigation"
  | .foreignParent navigation => "`" ++ navigation ++ "` is bound to a different parent type"
  | .foreignChild navigation => "`" ++ navigation ++ "` received a different child type"
  | .reported text => text

/-- The text of the error. -/
def SettingsError.message : SettingsError → String
  | .fileNotFound path => "Config file not found: " ++ path
  | .unreadable path => "Failed to read config file: " ++ path
  | .malformed => "Failed to parse config file"
  | .missingVariable name => "Missing environment variable: " ++ name
  | .connectionNotFound name => "Connection not found: " ++ name
  | .invalidConnectionString name reason =>
    "Invalid connection string for `" ++ name ++ "`: " ++ reason

/-- The text of the error. -/
def DriverError.text (e : DriverError) : String :=
  "driver error " ++ toString e.code ++ ": " ++ e.message

namespace Error

/-- The text of the error. -/
def message : Error → String
  | .notMapped entity member => "member `" ++ member ++ "` of `" ++ entity ++ "` is not mapped"
  | .unknownMember entity member =>
    "`" ++ entity ++ "` has no member named `" ++ member ++ "`"
  | .unsupported cause => "unsupported expression: " ++ cause.message
  | .positionOutOfScope position declared =>
    "parameter position " ++ toString position ++ " is not declared (only " ++
      toString declared ++ " in scope)"
  | .nullInComposite => "a NULL comparison cannot be combined inside AND/OR"
  | .emptySelection => "selector is empty"
  | .uncoveredJoin entity =>
    "selected columns must cover all joined tables; `" ++ entity ++ "` contributed none"
  | .groupingMismatch => "grouping columns and grouping projection must be declared together"
  | .missingJoinCondition entity => "join to `" ++ entity ++ "` has no join condition"
  | .invalidNavigation entity parent =>
    "join to `" ++ entity ++ "` targets position " ++ toString parent ++
      ", which is not declared before it"
  | .joinFanOut tables => "joins must span 2 to 7 tables, got " ++ toString tables
  | .countOutOfRange clause value =>
    clause.word ++ " row count " ++ toString value ++ " does not fit a BIGINT"
  | .missingRequired entity members =>
    "missing required columns for `" ++ entity ++ "`: " ++ String.intercalate ", " members
  | .missingTableType entity =>
    "`" ++ entity ++ "` declares no user-defined table type for bulk operations"
  | .emptyBulk entity => "no rows supplied for a bulk operation on `" ++ entity ++ "`"
  | .connectionNotDeclared name => "connection `" ++ name ++ "` is not declared"
  | .ambiguousConnection entity =>
    "`" ++ entity ++ "` declares no connection and more than one is configured"
  | .differentServer base joined =>
    "`" ++ base ++ "` and `" ++ joined ++ "` live on different database servers"
  | .unknownDatabase base joined =>
    "`" ++ joined ++ "` declares no database, so it cannot be joined from `" ++ base ++
      "` in another database"
  | .driver cause => cause.text
  | .result cause => "cannot materialize result: " ++ cause.message
  | .settings cause => cause.message

/-- The class of the error. -/
def category : Error → Category
  | .differentServer _ _ => .topology
  | .unknownDatabase _ _ => .topology
  | .driver _ => .execution
  | .result _ => .execution
  | .settings _ => .config
  | _ => .shape

end Error

end Rowgraph
