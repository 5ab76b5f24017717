import Mathlib.Data.List.Forall2
import Rowgraph.Proofs.Command.Operation

/-!
# Inputs that differ in values

When two inputs of a generator differ in values only. A constant of an expression may be exchanged for
another one that is NULL, or a text, just if it is; the values in rows may be exchanged as a relation
says that the reader of this module may choose (`Likeness.row`). The generator looks at a value's kind
for one reason more, to bind numbers inline, so that then a number may be exchanged only for a number.
Everything else is the same in both inputs (`Operation.Alike`). Two statements are alike when they have
the same text and the same parameters, less the values (`Statement.Alike`).
-/

set_option autoImplicit false

namespace Rowgraph

/-- Which values of rows may be exchanged for which, with a generator that binds numbers inline or does
not. -/
structure Likeness where
  inlineNumbers : Bool
  row : Value → Value → Prop
  numeric : inlineNumbers = true → ∀ v w, row v w → v.isNumeric = w.isNumeric

namespace Likeness

/-- Any value of a row may be exchanged for any other one, as far as numbers allow. -/
def greatest (inlineNumbers : Bool) : Likeness where
  inlineNumbers := inlineNumbers
  row v w := inlineNumbers = true → v.isNumeric = w.isNumeric
  numeric hinline _ _ h := h hinline

variable (k : Likeness)

/-- May a value be exchanged for another one where it is bound? -/
def bound (v w : Value) : Prop :=
  (k.inlineNumbers = true → v.isNumeric = w.isNumeric) ∧ (v.isText = w.isText ∨ k.row v w)

/-- May a constant be exchanged for another one? -/
def constant (v w : Value) : Prop :=
  v.isNull = w.isNull ∧ v.isText = w.isText ∧ (k.inlineNumbers = true → v.isNumeric = w.isNumeric)

/-- May an element of a list be exchanged for another one? -/
def element (v w : Value) : Prop := v.isNull = w.isNull ∧ k.bound v w

/-- May a row be exchanged for another one? -/
def rows (a b : Row) : Prop :=
  List.Forall₂ (fun c d => c.1 = d.1 ∧ k.row c.2 d.2) a.columns b.columns

end Likeness

/-! ## Inputs -/

/-- Do two expressions differ in constants only? -/
inductive Expr.Alike (k : Likeness) : Expr → Expr → Prop
  | member (ref : MemberRef) : Alike k (.member ref) (.member ref)
  | value {v w : Value} (h : k.constant v w) : Alike k (.value v) (.value w)
  | list {vs ws : List Value} (h : List.Forall₂ k.element vs ws) : Alike k (.list vs) (.list ws)
  | and {l r l' r' : Expr} (left : Alike k l l') (right : Alike k r r') :
      Alike k (.and l r) (.and l' r')
  | or {l r l' r' : Expr} (left : Alike k l l') (right : Alike k r r') :
      Alike k (.or l r) (.or l' r')
  | not {e e' : Expr} (inner : Alike k e e') : Alike k (.not e) (.not e')
  | compare {l r l' r' : Expr} (op : Comparison) (left : Alike k l l') (right : Alike k r r') :
      Alike k (.compare l op r) (.compare l' op r')
  | call {t a t' a' : Expr} (method : Method) (target : Alike k t t') (arg : Alike k a a') :
      Alike k (.call t method a) (.call t' method a')
  | aggregate {a a' : Expr} (function : Aggregate) (arg : Alike k a a') :
      Alike k (.aggregate function a) (.aggregate function a')
  | aggregateRows (function : Aggregate) : Alike k (.aggregateRows function) (.aggregateRows function)
  | convert {e e' : Expr} (inner : Alike k e e') : Alike k (.convert e) (.convert e')
  | output (name : String) : Alike k (.output name) (.output name)

/-- Do two joins differ in the constants of their conditions only? A statement reads nothing of what puts
the joined objects into the graph. -/
structure Join.Alike (k : Likeness) (j j' : Join) : Prop where
  entity : j.entity = j'.entity
  parent : j.parent = j'.parent
  kind : j.kind = j'.kind
  condition : Option.Rel (Expr.Alike k) j.condition j'.condition

/-- Do two items of an ordering differ in constants only? -/
structure OrderItem.Alike (k : Likeness) (a b : OrderItem) : Prop where
  expr : Expr.Alike k a.expr b.expr
  direction : a.direction = b.direction

/-- Do two selected expressions differ in constants only? -/
structure Pick.Alike (k : Likeness) (a b : Pick) : Prop where
  expr : Expr.Alike k a.expr b.expr
  rename : a.rename = b.rename

/-- Do two queries differ in constants only? -/
structure Query.Alike (k : Likeness) (q q' : Query) : Prop where
  root : q.root = q'.root
  joins : List.Forall₂ (Join.Alike k) q.joins q'.joins
  filter : Option.Rel (Expr.Alike k) q.filter q'.filter
  orderBy : List.Forall₂ (OrderItem.Alike k) q.orderBy q'.orderBy
  picks : Option.Rel (List.Forall₂ (Pick.Alike k)) q.picks q'.picks
  groupBy : List.Forall₂ (Expr.Alike k) q.groupBy q'.groupBy
  projection : Option.Rel (List.Forall₂ fun a b => a.1 = b.1 ∧ Expr.Alike k a.2 b.2)
    q.projection q'.projection
  distinct : q.distinct = q'.distinct
  skip : q.skip = q'.skip
  take : q.take = q'.take
  dirtyRead : q.dirtyRead = q'.dirtyRead

/-- Do two operations differ in constants and in the values of rows only? -/
inductive Operation.Alike (k : Likeness) : Operation → Operation → Prop
  | select {q q' : Query} (h : Query.Alike k q q') : Alike k (.select q) (.select q')
  | insert (e : Entity) {item item' : Row} (h : k.rows item item') :
      Alike k (.insert e item) (.insert e item')
  | insertOutput (e : Entity) {item item' : Row} (h : k.rows item item') :
      Alike k (.insertOutput e item) (.insertOutput e item')
  | insertMany (e : Entity) {items items' : List Row} (h : List.Forall₂ k.rows items items') :
      Alike k (.insertMany e items) (.insertMany e items')
  | insertIfAbsent (e : Entity) {item item' : Row} {absentWhen absentWhen' : Expr}
      (h : k.rows item item') (condition : Expr.Alike k absentWhen absentWhen') :
      Alike k (.insertIfAbsent e item absentWhen) (.insertIfAbsent e item' absentWhen')
  | insertTemplate (e : Entity) {template template' : Row} (h : k.rows template template') :
      Alike k (.insertTemplate e template) (.insertTemplate e template')
  | update (e : Entity) {values values' : Row} {filter filter' : Expr} (h : k.rows values values')
      (condition : Expr.Alike k filter filter') :
      Alike k (.update e values filter) (.update e values' filter')
  | upsert (e : Entity) {values values' : Row} {filter filter' : Expr} (h : k.rows values values')
      (condition : Expr.Alike k filter filter') :
      Alike k (.upsert e values filter) (.upsert e values' filter')
  | delete (e : Entity) {filter filter' : Expr} (condition : Expr.Alike k filter filter') :
      Alike k (.delete e filter) (.delete e filter')
  | deleteJoined (e : Entity) {joins joins' : List Join} {filter filter' : Expr}
      (h : List.Forall₂ (Join.Alike k) joins joins') (condition : Expr.Alike k filter filter') :
      Alike k (.deleteJoined e joins filter) (.deleteJoined e joins' filter')
  | bulkInsert (e : Entity) {items items' : List Row} (h : List.Forall₂ k.rows items items') :
      Alike k (.bulkInsert e items) (.bulkInsert e items')
  | bulkUpdate (e : Entity) {items items' : List Row} {template template' : Expr}
      (h : List.Forall₂ k.rows items items') (condition : Expr.Alike k template template') :
      Alike k (.bulkUpdate e items template) (.bulkUpdate e items' template')
  | bulkUpsert (e : Entity) {items items' : List Row} {template template' : Expr}
      (h : List.Forall₂ k.rows items items') (condition : Expr.Alike k template template') :
      Alike k (.bulkUpsert e items template) (.bulkUpsert e items' template')

/-! ## Commands and statements -/

/-- Do two parameters differ in their values only, and in their text types where the values are of rows
and one is a text and the other is not? -/
structure Parameter.Alike (k : Likeness) (p p' : Parameter) : Prop where
  name : p.name = p'.name
  inline : p.inline = p'.inline
  textType : p.textType = p'.textType ∨ (p.value.isText ≠ p'.value.isText ∧ k.row p.value p'.value)

/-- Do the parameters of two statements differ in values only? -/
structure Parameters.Alike (k : Likeness) (ps ps' : Parameters) : Prop where
  inlineNumbers : ps.inlineNumbers = ps'.inlineNumbers
  numeric : ps.inlineNumbers = true → k.inlineNumbers = true
  entries : List.Forall₂ (Parameter.Alike k) ps.entries ps'.entries

/-- Do the rows of two statements differ in the values of their cells only? -/
structure TableParameter.Alike (t t' : TableParameter) : Prop where
  name : t.name = t'.name
  typeName : t.typeName = t'.typeName
  columns : t.columns = t'.columns
  rows : List.Forall₂ (fun row row' => row.length = row'.length) t.rows t'.rows

/-- Do two commands differ in values only? -/
structure Command.Alike (k : Likeness) (c c' : Command) : Prop where
  tokens : c.tokens = c'.tokens
  params : c.params.Alike k c'.params
  table : Option.Rel TableParameter.Alike c.table c'.table
  split : c.split = c'.split

/-- Do two statements differ in values only? -/
structure Statement.Alike (k : Likeness) (s s' : Statement) : Prop where
  sql : s.sql = s'.sql
  params : s.params.Alike k s'.params
  table : Option.Rel TableParameter.Alike s.table s'.table
  split : s.split = s'.split

end Rowgraph
