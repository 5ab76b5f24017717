import Rowgraph.Proofs.Command.Layout
import Rowgraph.Proofs.Condition.Involved

/-!
# Shipped rows

A bulk statement is read off its tokens (`Command.bulk?`): which columns are set to which shipped ones, which
are compared, and which are inserted from which. All of them agree with the columns that are shipped. What the
statement does to the rows of a table follows from this reading alone, whatever the server takes for equal
values (`BulkText.completes`): an update changes no column that is compared, so that the rows that are
inserted behind it are those that joined no row before it (`bulk_agrees`).
-/

set_option autoImplicit false

namespace Rowgraph

open Tokens

/-! ## Reading bulk statements -/

namespace Tokens

/-- A column of a table with an alias, equated with a shipped one. -/
def equation? (table : String) : List Token → Option (String × String)
  | [.alias target, .word .dot, .ident column, .word .eq, .alias source, .word .dot, .ident shipped] =>
    if target = table ∧ table ≠ shippedAlias ∧ source = shippedAlias then some (column, shipped) else none
  | _ => none

/-- The equations of a condition. -/
def equations? (table : String) : List (List Token) → Option (List (String × String))
  | [condition] => (condition.splitOn (.word .and)).mapM (equation? table)
  | _ => none

/-- A shipped column that is selected. It needs no alias where only the shipped rows are selected from. -/
def shipped? : List Token → Option String
  | [.ident column] => some column
  | [.alias source, .word .dot, .ident column] => if source = shippedAlias then some column else none
  | _ => none

/-- Is it the test that no row of a table meets a condition? -/
def isAbsence (test condition : List Token) : Bool :=
  List.isPrefixOf [.word .not, .word .exists, .word .lparen] test &&
    List.isSuffixOf (.word .whereKw :: condition ++ [Token.word .rparen]) test

/-- Are rows taken from what the token names? -/
def isSource (t : Token) : Bool :=
  match t with
  | .table _ _ _ => true
  | _ => t.isPlaceholder

/-- The alias behind a token from which rows are taken. -/
def aliased (t : Token) : List Token → List (Token × String)
  | .alias a :: _ => if isSource t then [(t, a)] else []
  | _ => []

/-- What rows are taken from under an alias, with the alias. -/
def declared : List Token → List (Token × String)
  | [] => []
  | t :: ts => aliased t ts ++ declared ts

end Tokens

/-- What a bulk statement says, each column of the table with the shipped one. -/
structure BulkText where
  set : List (String × String) := []
  /-- The condition of the join. -/
  on : List (String × String) := []
  columns : List String := []
  /-- The columns that are selected for those of the insertion. -/
  sources : List String := []
  /-- The condition that no row may meet. -/
  absent : List (String × String) := []
  deriving DecidableEq

/-- Reads a bulk statement, given the alias of the table. -/
def Command.bulk? (c : Command) (table : String) : Option BulkText :=
  match Tokens.phrases c.tokens with
  | [⟨.columns, columns⟩, ⟨.select, sources⟩] => do
    return { columns := ← columns.mapM column?, sources := ← sources.mapM shipped? }
  | [⟨.set, set⟩, ⟨.on, on⟩] => do
    return { set := ← set.mapM (equation? table), on := ← equations? table on }
  | [⟨.set, set⟩, ⟨.on, on⟩, ⟨.columns, columns⟩, ⟨.select, sources⟩, ⟨.filter, [test]⟩,
      ⟨.select, _⟩, ⟨.filter, [absent]⟩] =>
    if isAbsence test absent then do
      return {
        set := ← set.mapM (equation? table)
        on := ← equations? table on
        columns := ← columns.mapM column?
        sources := ← sources.mapM shipped?
        absent := ← equations? table [absent] }
    else none
  | _ => none

/-- Does the reading name shipped columns only, and feed each column from the one of its name? -/
structure BulkText.Agrees (b : BulkText) (rows : TableParameter) : Prop where
  set : ∀ pair ∈ b.set, pair.2 ∈ rows.columns
  on : ∀ pair ∈ b.on, pair.2 ∈ rows.columns
  absent : ∀ pair ∈ b.absent, pair.2 ∈ rows.columns
  sources : ∀ column ∈ b.sources, column ∈ rows.columns
  fed : b.sources = b.columns

/-- Are the rows the values of some members in some items, one row for each item? -/
structure TableParameter.Ships (rows : TableParameter) (ms : List Member) (items : List Row) : Prop where
  columns : rows.columns = ms.map Member.columnName
  height : rows.rows.length = items.length
  width : ∀ row ∈ rows.rows, row.length = rows.columns.length
  cell : ∀ (i j : Nat) (item : Row) (m : Member), items[i]? = some item → ms[j]? = some m →
    ∃ row, rows.rows[i]? = some row ∧ row[j]? = some ((item.find? m.name).getD .null)

/-- Does a bulk statement ship members of items, and agree with what it ships? -/
structure Command.Carries (c : Command) (e : Entity) (ms : List Member) (items : List Row)
    (rows : TableParameter) (b : BulkText) : Prop where
  table : c.table = some rows
  ships : rows.Ships ms items
  reads : c.bulk? e.bulkAlias = some b
  agrees : b.Agrees rows

/-- The column of a member, and the shipped one of its name. -/
def Member.pair (m : Member) : String × String := (m.columnName, m.columnName)

/-- Are rows joined on some members, and others set? -/
structure BulkText.Joins (b : BulkText) (matched assigned : List Member) : Prop where
  on : b.on = matched.map Member.pair
  set : b.set = assigned.map Member.pair
  apart : ∀ m ∈ assigned, m ∉ matched

/-! ## What a bulk statement does -/

/-- A row of a table, as the values of its columns. -/
abbrev Record := String → Value

/-- The shipped rows. -/
def TableParameter.records (t : TableParameter) : List Record :=
  t.rows.map fun row column => ((t.columns.zip row).lookup column).getD .null

namespace BulkText

/-- Does a row of the table meet a condition with a shipped one? What values are equal is up to the
server. -/
def Meets (same : Value → Value → Prop) (pairs : List (String × String)) (r shipped : Record) : Prop :=
  ∀ pair ∈ pairs, same (r pair.1) (shipped pair.2)

/-- A row of the table with columns set to shipped ones. -/
def assign (b : BulkText) (shipped r : Record) : Record := fun column =>
  match b.set.lookup column with
  | some source => shipped source
  | none => r column

/-- An update sets a row that joins shipped ones from any of these, and leaves the others as they are. -/
inductive Updates (b : BulkText) (same : Value → Value → Prop) (rows : List Record) (r : Record) :
    Record → Prop
  | joined {shipped : Record} (given : shipped ∈ rows) (meets : Meets same b.on r shipped) :
      Updates b same rows r (b.assign shipped r)
  | left (none : ∀ shipped ∈ rows, ¬ Meets same b.on r shipped) : Updates b same rows r r

/-- Is a shipped row inserted in a table? -/
def Inserts (b : BulkText) (same : Value → Value → Prop) (table : List Record) (shipped : Record) : Prop :=
  ∀ r ∈ table, ¬ Meets same b.absent r shipped

/-- Does the update leave the columns that are compared, and is a shipped row inserted behind it just when it
joined no row? -/
def Completes (b : BulkText) (rows : List Record) : Prop :=
  ∀ (same : Value → Value → Prop) (before after : List Record),
    List.Forall₂ (b.Updates same rows) before after →
      List.Forall₂ (fun r r' : Record => ∀ pair ∈ b.on ++ b.absent, r' pair.1 = r pair.1) before after ∧
        ∀ shipped ∈ rows, b.Inserts same after shipped ↔ ∀ r ∈ before, ¬ Meets same b.on r shipped

section Updated

variable {b : BulkText} {same : Value → Value → Prop} {rows : List Record} {r r' : Record}

/-- A column that is not set keeps its value. -/
theorem assign_of_not_mem {column : String} (h : ∀ pair ∈ b.set, pair.1 ≠ column) (shipped r : Record) :
    b.assign shipped r column = r column := by
  have hnone : b.set.lookup column = none := by
    rw [List.lookup_eq_none_iff]
    intro pair hpair
    simpa using (h pair hpair).symm
  rw [assign, hnone]

theorem Updates.unset (h : b.Updates same rows r r') {column : String}
    (hset : ∀ pair ∈ b.set, pair.1 ≠ column) : r' column = r column := by
  cases h with
  | joined given meets => exact assign_of_not_mem hset _ r
  | left none => rfl

/-- A condition reads its own columns only. -/
theorem meets_congr {pairs : List (String × String)} (h : ∀ pair ∈ pairs, r' pair.1 = r pair.1)
    (shipped : Record) : Meets same pairs r' shipped ↔ Meets same pairs r shipped := by
  apply forall₂_congr
  intro pair hpair
  rw [h pair hpair]

/-- Where no column is both set and compared, the rows that are inserted are those that joined no row. -/
theorem completes (habsent : b.absent = b.on)
    (h : ∀ pair ∈ b.on, ∀ assigned ∈ b.set, assigned.1 ≠ pair.1) : b.Completes rows := by
  intro same before after hupdates
  have hkept : List.Forall₂ (fun r r' : Record => ∀ pair ∈ b.on, r' pair.1 = r pair.1) before after :=
    hupdates.imp fun r r' hr pair hpair => hr.unset (h pair hpair)
  constructor
  · rw [habsent]
    exact hkept.imp fun r r' hr pair hpair => hr pair (by simpa using hpair)
  · intro shipped _
    rw [Inserts, habsent]
    clear hupdates
    -- row by row, since a row meets the condition behind the update just if it met it before
    induction hkept with
    | nil => simp
    | cons hr _ ih => rw [List.forall_mem_cons, List.forall_mem_cons, ih, meets_congr hr]

end Updated

end BulkText

/-! ## What is read -/

section Read

variable {e : Entity} {rows : TableParameter} {matched : List Member}

/-- The alias of the table ends in the number of its position. -/
theorem bulkAlias_ne (e : Entity) : e.bulkAlias ≠ shippedAlias := by
  intro heq
  have hchars := congrArg String.toList heq
  rw [Entity.bulkAlias, Alias.ofName, String.toList_append, String.toList_ofList] at hchars
  -- the texts differ in their last letters
  change _ = ['s', 'r'] ++ ['c'] at hchars
  have hlast : ['1'] = ['c'] := List.append_inj_right' hchars rfl
  cases hlast

theorem equation?_shippedPair (e : Entity) (m : Member) :
    equation? e.bulkAlias (m.shippedPair e.bulkAlias) = some m.pair := by
  rw [Member.shippedPair, equation?, if_pos ⟨rfl, bulkAlias_ne e, rfl⟩]
  rfl

theorem mapM_equation? (e : Entity) (ms : List Member) :
    (ms.map (Member.shippedPair e.bulkAlias)).mapM (equation? e.bulkAlias) = some (ms.map Member.pair) := by
  rw [List.mapM_map]
  refine mapM_eq_some fun m _ => ?_
  rw [Function.comp_apply, equation?_shippedPair]

theorem mapM_shipped? {qualifier : Option String} (h : qualifier = none ∨ qualifier = some shippedAlias)
    (ms : List Member) :
    (ms.map (Member.columnTokens qualifier)).mapM shipped? = some (ms.map Member.columnName) := by
  rw [List.mapM_map]
  refine mapM_eq_some fun m _ => ?_
  rcases h with rfl | rfl
  · rfl
  · rfl

theorem mapM_column? (ms : List Member) :
    (ms.map fun m => [Token.ident m.columnName]).mapM column? = some (ms.map Member.columnName) := by
  rw [List.mapM_map]
  exact mapM_eq_some fun m _ => rfl

theorem marks_joined {w : Word} (hw : w ≠ .space) (tests : List (List Token)) :
    marks (Condition.joined w tests) = [Token.word w].intercalate (tests.map marks) := by
  induction tests with
  | nil => rfl
  | cons test rest ih =>
    cases rest with
    | nil => simp [Condition.joined, List.intercalate]
    | cons next rest =>
      rw [Condition.joined, List.append_assoc, marks_append, List.cons_append, marks_space,
        marks_spaced hw, ih, List.map_cons, List.map_cons, List.map_cons, List.intercalate_cons_cons,
        List.append_assoc]
      rfl

/-- The condition on the shipped rows without its spaces. -/
theorem marks_allEqualShipped (e : Entity) (ms : List Member) :
    marks (Member.allEqualShipped e.bulkAlias ms) =
      [Token.word .and].intercalate (ms.map (Member.shippedPair e.bulkAlias)) := by
  rw [Member.allEqualShipped, marks_joined (by decide), List.map_map]
  rfl

/-- A condition on shipped columns is read as its equations. -/
theorem equations?_allEqualShipped (h : matched ≠ []) :
    equations? e.bulkAlias [marks (Member.allEqualShipped e.bulkAlias matched)] =
      some (matched.map Member.pair) := by
  rw [marks_allEqualShipped, equations?, List.splitOn_intercalate, mapM_equation?]
  · intro pair hpair
    obtain ⟨m, -, rfl⟩ := List.mem_map.1 hpair
    simp [Member.shippedPair]
  · exact fun hnil => h (List.map_eq_nil_iff.1 hnil)

/-- It is one item, and so are its tokens in the phrase that it is. -/
theorem condition_allEqualShipped (kind : PhraseKind) (h : matched ≠ []) :
    Phrase.condition kind (Member.allEqualShipped e.bulkAlias matched) =
      ⟨kind, [marks (Member.allEqualShipped e.bulkAlias matched)]⟩ := by
  have hitems := (inner_allEqualShipped e.bulkAlias matched).keeps 0 (Nat.le_refl 0) []
  rw [List.append_nil, show itemsFrom 0 [] = [[]] from rfl, List.modifyHead_cons, List.append_nil] at hitems
  rw [Phrase.condition, listed, hitems, if_neg]
  intro hnil
  have hread := equations?_allEqualShipped (e := e) h
  rw [(List.cons.inj hnil).1] at hread
  cases hread

/-- What an insertion tests is read as the test of its condition. -/
theorem isAbsence_absenceTest (e : Entity) (qualifier : List Token) (dirtyRead : Bool)
    (condition : List Token) :
    isAbsence (marks (e.absenceTest qualifier dirtyRead condition)) (marks condition) = true := by
  have hfront : [Token.word .not, .word .exists, .word .lparen] <+:
      marks (e.absenceTest qualifier dirtyRead condition) := by
    rw [Entity.absenceTest, marks_append, marks_parenthesized]
    exact ⟨_, rfl⟩
  have hback : .word .whereKw :: marks condition ++ [Token.word .rparen] <:+
      marks (e.absenceTest qualifier dirtyRead condition) := by
    have hwhere : marks (clause .whereKw condition) = .word .whereKw :: marks condition := by
      rw [clause, List.cons_append, marks_space, marks_spaced (by decide)]
    have hquery : .word .whereKw :: marks condition <:+
        marks (e.presenceQuery qualifier dirtyRead condition) := by
      rw [Entity.presenceQuery, marks_append, hwhere]
      exact List.suffix_append _ _
    obtain ⟨front, hfront⟩ := hquery
    rw [Entity.absenceTest, marks_append, marks_parenthesized, ← hfront, List.append_assoc front,
      ← List.cons_append, ← List.append_assoc]
    exact List.suffix_append _ _
  rw [isAbsence, Bool.and_eq_true, List.isPrefixOf_iff_prefix, List.isSuffixOf_iff_suffix]
  exact ⟨hfront, hback⟩

/-! ## Aliases -/

/-- What rows are taken from in the tokens, when no alias stands behind them. -/
def Tokens.Declares (ts : List Token) (sources : List (Token × String)) : Prop :=
  ∀ us, declared (marks ts ++ us) = sources ++ declared us

namespace Tokens.Declares

variable {ts us : List Token} {sources sources' : List (Token × String)} {t : Token}

theorem append (h : Declares ts sources) (h' : Declares us sources') :
    Declares (ts ++ us) (sources ++ sources') := by
  intro rest
  rw [marks_append, List.append_assoc, h, h', List.append_assoc]

/-- Tokens that stand alone declare what they declare before others. -/
theorem declared_marks (h : Declares ts sources) : declared (marks ts) = sources := by
  have hall := h []
  rwa [List.append_nil, show declared [] = [] from rfl, List.append_nil] at hall

theorem sourceless (h : ∀ t ∈ ts, isSource t = false) : Declares ts [] := by
  intro rest
  induction ts with
  | nil => rfl
  | cons t ts ih =>
    rw [List.forall_mem_cons] at h
    by_cases hspace : t = .word .space
    · rw [hspace, marks_space]
      exact ih h.2
    · have hnone : aliased t (marks ts ++ rest) = [] := by
        rw [aliased.eq_def]
        split
        · rw [h.1, if_neg Bool.false_ne_true]
        · rfl
      rw [marks_cons_of_ne hspace, List.cons_append, declared, hnone, List.nil_append]
      exact ih h.2

/-- Tokens of lists and conditions without values name columns only. -/
theorem silent (h : ∀ t ∈ ts, t.isSilent = true) (hvalues : placeholders ts = []) : Declares ts [] := by
  refine sourceless fun t ht => ?_
  have hsilent := h t ht
  have hbound : ¬ t.isPlaceholder = true := List.filter_eq_nil_iff.1 hvalues t ht
  rw [isSource.eq_def]
  split
  · cases hsilent
  · exact Bool.eq_false_iff.2 hbound

theorem ne_space (h : isSource t = true) : t ≠ .word .space := by
  rintro rfl
  cases h

theorem aliased (h : isSource t = true) (a : String) : Declares [t, .word .space, .alias a] [(t, a)] := by
  intro rest
  have halias : declared (.alias a :: rest) = declared rest :=
    sourceless (List.forall_mem_singleton.2 (rfl : isSource (.alias a) = false)) rest
  rw [marks_cons_of_ne (ne_space h), marks_space]
  change declared (t :: .alias a :: rest) = (t, a) :: declared rest
  rw [declared, halias, Tokens.aliased, if_pos h]
  rfl

/-- A table with no alias behind it. -/
theorem bare (h : isSource t = true) : Declares [t, .word .space, .word .lparen] [] := by
  intro rest
  have hparen : declared (.word .lparen :: rest) = declared rest :=
    sourceless (List.forall_mem_singleton.2 (rfl : isSource (.word .lparen) = false)) rest
  rw [marks_cons_of_ne (ne_space h), marks_space]
  exact hparen

end Tokens.Declares

theorem declares_condition (qualifier : String) (ms : List Member) :
    Declares (Member.allEqualShipped qualifier ms) [] :=
  Declares.silent (inner_allEqualShipped qualifier ms).silent (by simp)

theorem declares_columnList (qualifier : Option String) (ms : List Member) :
    Declares (Member.columnList qualifier ms) [] :=
  Declares.silent (silent_separated (item_columns qualifier ms)) (by simp)

theorem declares_assignments (qualifier : String) (ms : List Member) :
    Declares (separated (ms.map (Member.equalsShipped qualifier))) [] := by
  refine Declares.silent (silent_separated fun item hitem => ?_) ?_
  · obtain ⟨m, -, rfl⟩ := List.mem_map.1 hitem
    exact item_equalsShipped qualifier m
  · rw [placeholders_separated]
    exact placeholders_flatten_map (fun m => by simp [Member.equalsShipped]) ms

/-- What a bulk update takes rows from, with the aliases. -/
def Entity.updateSources (e : Entity) (rows : TableParameter) : List (Token × String) :=
  [(e.reference, e.bulkAlias), (rows.placeholder, shippedAlias)]

theorem isSource_placeholder (rows : TableParameter) : isSource rows.placeholder = true := rfl

theorem isSource_reference (e : Entity) : isSource e.reference = true := rfl

theorem declares_bulkUpdating {ts : List Token} (h : e.bulkUpdating rows matched = .ok ts) :
    Declares ts (e.updateSources rows) := by
  rw [Entity.bulkUpdating] at h
  split at h
  · cases h
  · cases h
    -- cut where rows are taken from: the parts between name columns only
    have hhead : Declares
        (spaced .update ++ [Token.alias e.bulkAlias] ++ [Token.word .space] ++ spaced .set) [] :=
      Declares.sourceless (by simp [spaced, isSource, Token.isPlaceholder, Token.placeholder?])
    have hset := declares_assignments e.bulkAlias (e.bulkAssigned matched)
    have hfrom : Declares ([Token.word .space] ++ spaced .fromKw) [] := Declares.sourceless (by decide)
    have htable := Declares.aliased (isSource_reference e) e.bulkAlias
    have hjoin : Declares ([Token.word .space] ++ spaced .inner ++ spaced .join) [] :=
      Declares.sourceless (by decide)
    have hrows := Declares.aliased (isSource_placeholder rows) shippedAlias
    have hon : Declares ([Token.word .space] ++ spaced .on) [] := Declares.sourceless (by decide)
    have hcondition := declares_condition e.bulkAlias matched
    have hall := ((((((hhead.append hset).append hfrom).append htable).append hjoin).append hrows).append
      hon).append hcondition
    simpa only [Entity.bulkUpdating, Entity.updateSources, clause, TableParameter.source, List.append_assoc,
      List.cons_append, List.nil_append, List.append_nil] using hall

/-- The insertion behind it takes its rows from the shipped ones, and looks for them in the table. -/
def Entity.insertSources (e : Entity) (rows : TableParameter) : List (Token × String) :=
  [(rows.placeholder, shippedAlias), (e.reference, e.bulkAlias)]

theorem declares_bulkInserting (e : Entity) (rows : TableParameter) (matched : List Member)
    (dirtyRead : Bool) : Declares (e.bulkInserting rows matched dirtyRead) (e.insertSources rows) := by
  have hhead : Declares (spaced .insert ++ spaced .into) [] := Declares.sourceless (by decide)
  have htable := Declares.bare (isSource_reference e)
  have hcolumns := declares_columnList none e.insertable
  have hselect : Declares ([Token.word .rparen, .word .space] ++ spaced .select) [] :=
    Declares.sourceless (by decide)
  have hlist := declares_columnList (some shippedAlias) e.insertable
  have hfrom : Declares ([Token.word .space] ++ spaced .fromKw) [] := Declares.sourceless (by decide)
  have hrows := Declares.aliased (isSource_placeholder rows) shippedAlias
  have htest : Declares ([Token.word .space] ++ spaced .whereKw ++ spaced .not ++ spaced .exists ++
      [Token.word .lparen] ++ spaced .select ++ [Token.int 1] ++ [Token.word .space] ++ spaced .fromKw) [] :=
    Declares.sourceless (by decide)
  have hlooked := Declares.aliased (isSource_reference e) e.bulkAlias
  have hhint : Declares (Join.hint dirtyRead) [] := by
    cases dirtyRead with
    | true => exact Declares.sourceless (by decide)
    | false => exact Declares.sourceless (by decide)
  have hwhere : Declares ([Token.word .space] ++ spaced .whereKw) [] := Declares.sourceless (by decide)
  have hcondition := declares_condition e.bulkAlias matched
  have hclose : Declares [.word .rparen] [] := Declares.sourceless (by decide)
  have hinsertion := ((((hhead.append htable).append hcolumns).append hselect).append hlist).append hfrom
  have htested := ((((htest.append hlooked).append hhint).append hwhere).append hcondition).append hclose
  have hall := (hinsertion.append hrows).append htested
  simpa only [Entity.bulkInserting, Entity.insertHead, Entity.absenceClause, Entity.insertSources, clause,
    parenthesized, TableParameter.source, List.append_assoc, List.cons_append, List.nil_append,
    List.append_nil] using hall

/-! ## Rows that are shipped -/

variable {items : List Row} {ms : List Member}

theorem ships_ofRows (h : TableParameter.ofRows e ms items = .ok rows) : rows.Ships ms items := by
  rw [TableParameter.ofRows] at h
  obtain ⟨typeName, -, h⟩ := bind_eq_ok.1 h
  split at h
  · cases h
  · cases h
    constructor
    · rfl
    · exact List.length_map _
    · intro row hrow
      obtain ⟨item, -, rfl⟩ := List.mem_map.1 hrow
      rw [List.length_map, List.length_map]
    · intro i j item m hitem hm
      refine ⟨ms.map fun m => item.findD m.name, ?_, ?_⟩
      · rw [List.getElem?_map, hitem]
        rfl
      · rw [List.getElem?_map, hm]
        rfl

/-- A template matches on members with columns, of which there is one. -/
theorem matched_of_matchMembers {template : Expr} (h : matchMembers e template = .ok matched) :
    matched ≠ [] ∧ ∀ m ∈ matched, m ∈ e.mapped := by
  have hplan : ∃ p, template.plan? (.single e) false false = some p := by
    rw [matchMembers] at h
    split at h
    · cases h
    · next condition hcondition =>
      obtain ⟨p, hp, -⟩ := Condition.ofExpr_iff.1 (Prod.ext hcondition rfl)
      exact ⟨p, hp⟩
  obtain ⟨p, hp⟩ := hplan
  rw [Condition.matchMembers_eq_ok hp] at h
  cases h
  constructor
  · obtain ⟨r, hr⟩ := List.exists_mem_of_ne_nil _ p.reads_ne_nil
    exact List.ne_nil_of_mem (List.mem_eraseDups.2 (List.mem_map_of_mem hr))
  · intro m hm
    obtain ⟨r, hr, rfl⟩ := List.mem_map.1 (List.mem_eraseDups.1 hm)
    have hmapped := (Expr.finds_of_plan? hp).isMapped r hr
    have hentity := hmapped.position
    rw [Entity.mapped, List.mem_filter, hmapped.mapped]
    obtain ⟨position, entity, member⟩ := r
    cases position with
    | zero =>
      cases hentity
      exact ⟨hmapped.member, rfl⟩
    | succ position => cases hentity

theorem mem_bulkAssigned {m : Member} :
    m ∈ e.bulkAssigned matched ↔ m ∈ e.insertable ∧ m ∉ matched := by
  rw [Entity.bulkAssigned, List.mem_filter, Bool.not_eq_true', List.contains_eq_mem, decide_eq_false_iff_not]

theorem mapped_of_insertable {m : Member} (h : m ∈ e.insertable) : m ∈ e.mapped := List.mem_of_mem_filter h

/-! ## What bulk statements say -/

/-- What a bulk insertion says. -/
def BulkText.inserting (e : Entity) : BulkText :=
  { columns := e.insertable.map Member.columnName, sources := e.insertable.map Member.columnName }

/-- What a bulk update says. -/
def BulkText.updating (e : Entity) (matched : List Member) : BulkText :=
  { set := (e.bulkAssigned matched).map Member.pair, on := matched.map Member.pair }

/-- What an update says with the insertion behind it. -/
def BulkText.upserting (e : Entity) (matched : List Member) : BulkText :=
  { BulkText.inserting e with
    set := (BulkText.updating e matched).set
    on := matched.map Member.pair
    absent := matched.map Member.pair }

theorem bulk?_inserting {c : Command} (hc : c.tokens = e.insertHead e.insertable ++ spaced .select ++
    Member.columnList none e.insertable ++ clause .fromKw [rows.placeholder]) :
    c.bulk? e.bulkAlias = some (BulkText.inserting e) := by
  rw [Command.bulk?, hc, (phrased_bulkInsert e rows).phrases_eq]
  simp only [Phrase.columnsOf, Phrase.selectedOf, mapM_column?, mapM_shipped? (Or.inl rfl)]
  rfl

theorem bulk?_updating {c : Command} (hmatched : matched ≠ [])
    (h : e.bulkUpdating rows matched = .ok c.tokens) :
    c.bulk? e.bulkAlias = some (BulkText.updating e matched) := by
  obtain ⟨-, hphrased⟩ := phrased_bulkUpdating h
  rw [Command.bulk?, hphrased.phrases_eq, condition_allEqualShipped .on hmatched]
  simp only [mapM_equation?, equations?_allEqualShipped hmatched]
  rfl

theorem bulk?_upserting {c : Command} {updating : List Token} {dirtyRead : Bool} (hmatched : matched ≠ [])
    (h : e.bulkUpdating rows matched = .ok updating)
    (hc : c.tokens =
      updating ++ [Token.word .semicolon, .word .space] ++ e.bulkInserting rows matched dirtyRead) :
    c.bulk? e.bulkAlias = some (BulkText.upserting e matched) := by
  obtain ⟨-, hphrased⟩ := phrased_bulkUpdating h
  have hall := (hphrased.append phrased_semicolon).append (phrased_bulkInserting e rows matched dirtyRead)
  have habsence := isAbsence_absenceTest e [.word .space, .alias e.bulkAlias] dirtyRead
    (Member.allEqualShipped e.bulkAlias matched)
  rw [Command.bulk?, hc, hall.phrases_eq, condition_allEqualShipped .on hmatched,
    condition_allEqualShipped .filter hmatched]
  simp only [List.append_nil, List.cons_append, List.nil_append, Phrase.columnsOf, Phrase.selectedOf,
    habsence, if_true, mapM_equation?, equations?_allEqualShipped hmatched, mapM_column?,
    mapM_shipped? (Or.inr rfl)]
  rfl

theorem joins_updating (e : Entity) (matched : List Member) :
    (BulkText.updating e matched).Joins matched (e.bulkAssigned matched) where
  on := rfl
  set := rfl
  apart _ hm := (mem_bulkAssigned.1 hm).2

theorem joins_upserting (e : Entity) (matched : List Member) :
    (BulkText.upserting e matched).Joins matched (e.bulkAssigned matched) where
  on := rfl
  set := rfl
  apart := (joins_updating e matched).apart

/-- The columns of members that are shipped are. -/
theorem shipped_of_pairs {ms' : List Member} (hrows : rows.columns = ms.map Member.columnName)
    (h : ∀ m ∈ ms', m ∈ ms) : ∀ pair ∈ ms'.map Member.pair, pair.2 ∈ rows.columns := by
  intro pair hpair
  obtain ⟨m, hm, rfl⟩ := List.mem_map.1 hpair
  rw [hrows]
  exact List.mem_map_of_mem (h m hm)

theorem agrees_inserting (hrows : rows.columns = e.insertable.map Member.columnName) :
    (BulkText.inserting e).Agrees rows where
  set _ hpair := absurd hpair List.not_mem_nil
  on _ hpair := absurd hpair List.not_mem_nil
  absent _ hpair := absurd hpair List.not_mem_nil
  sources _ hcolumn := hrows ▸ hcolumn
  fed := rfl

theorem agrees_updating (hrows : rows.columns = e.mapped.map Member.columnName)
    (h : ∀ m ∈ matched, m ∈ e.mapped) : (BulkText.updating e matched).Agrees rows where
  set := shipped_of_pairs hrows fun _ hm => mapped_of_insertable (mem_bulkAssigned.1 hm).1
  on := shipped_of_pairs hrows h
  absent _ hpair := absurd hpair List.not_mem_nil
  sources _ hcolumn := absurd hcolumn List.not_mem_nil
  fed := rfl

theorem agrees_upserting (hrows : rows.columns = e.mapped.map Member.columnName)
    (h : ∀ m ∈ matched, m ∈ e.mapped) : (BulkText.upserting e matched).Agrees rows where
  set := (agrees_updating hrows h).set
  on := (agrees_updating hrows h).on
  absent := (agrees_updating hrows h).on
  sources := by
    rw [hrows]
    exact fun column hcolumn => List.map_subset _ (fun _ => mapped_of_insertable) hcolumn
  fed := rfl

/-- Members with columns of different names are told apart by these. -/
theorem completes_upserting {records : List Record} (hnodup : (e.mapped.map Member.columnName).Nodup)
    (h : ∀ m ∈ matched, m ∈ e.mapped) : (BulkText.upserting e matched).Completes records := by
  apply BulkText.completes
  · rfl
  · intro pair hpair assigned hassigned heq
    obtain ⟨m, hm, rfl⟩ := List.mem_map.1 hpair
    obtain ⟨m', hm', rfl⟩ := List.mem_map.1 hassigned
    obtain ⟨hinsertable, hunmatched⟩ := mem_bulkAssigned.1 hm'
    -- the columns are told apart by their names, and so are the members
    have hsame : m' = m :=
      List.inj_on_of_nodup_map hnodup (mapped_of_insertable hinsertable) (h m hm) heq
    exact hunmatched (hsame ▸ hm)

/-- An update names its table by the alias, and ends in the condition of the join. -/
theorem exists_bulkUpdating_eq {ts : List Token} (h : e.bulkUpdating rows matched = .ok ts) :
    ∃ middle, ts = spaced .update ++ [Token.alias e.bulkAlias] ++ middle ++
      clause .on (Member.allEqualShipped e.bulkAlias matched) := by
  rw [Entity.bulkUpdating] at h
  split at h
  · cases h
  · cases h
    refine ⟨clause .set (separated ((e.bulkAssigned matched).map (Member.equalsShipped e.bulkAlias))) ++
      clause .fromKw [e.reference, .word .space, .alias e.bulkAlias, .word .space] ++ spaced .inner ++
      spaced .join ++ rows.source, ?_⟩
    simp only [List.append_assoc]

/-- An insertion ends in the condition of its test. -/
theorem exists_bulkInserting_eq (e : Entity) (rows : TableParameter) (matched : List Member)
    (dirtyRead : Bool) :
    ∃ middle, e.bulkInserting rows matched dirtyRead = spaced .insert ++ spaced .into ++ [e.reference] ++
      middle ++ clause .whereKw (Member.allEqualShipped e.bulkAlias matched) ++ [Token.word .rparen] := by
  let condition := Member.allEqualShipped e.bulkAlias matched
  let qualifier : List Token := [.word .space, .alias e.bulkAlias]
  have hquery : clause .whereKw condition <:+ e.presenceQuery qualifier dirtyRead condition :=
    List.suffix_append _ _
  have htest : clause .whereKw condition ++ [Token.word .rparen] <:+
      e.absenceTest qualifier dirtyRead condition := by
    obtain ⟨front, hfront⟩ := hquery
    refine ⟨spaced .not ++ spaced .exists ++ .word .lparen :: front, ?_⟩
    rw [Entity.absenceTest, parenthesized, ← hfront]
    simp only [List.append_assoc, List.cons_append]
  have hclause : e.absenceTest qualifier dirtyRead condition <:+
      e.absenceClause qualifier dirtyRead condition := by
    rw [absenceClause_eq]
    exact List.suffix_append _ _
  obtain ⟨front, hfront⟩ := htest.trans hclause
  refine ⟨[Token.word .space] ++ parenthesized (Member.columnList none e.insertable) ++ [Token.word .space] ++
    spaced .select ++ Member.columnList (some shippedAlias) e.insertable ++ clause .fromKw rows.source ++
    front, ?_⟩
  rw [Entity.bulkInserting, ← hfront, Entity.insertHead]
  simp only [List.append_assoc, List.cons_append, List.nil_append, condition]

end Read

/-- Bulk statements agree with the rows they ship. There is a row for each item, of its values for the members
that are shipped; the columns that a statement takes from them are shipped, and each column of an insertion is
fed by the one of its name. The rows are joined on the members that the template reads, and none of these is
set. Behind an update the insertion tests the very condition of the join, so that the rows that are inserted
are those that joined none, once the columns of the entity have different names. -/
theorem bulk_agrees (g : Generator) (e : Entity) (items : List Row) (template : Expr) (c : Command) :
    (g.bulkInsert e items = .ok c →
      ∃ rows b, c.Carries e e.insertable items rows b ∧
        ∃ middle, c.tokens = spaced .insert ++ spaced .into ++ [e.reference] ++ middle ++
          clause .fromKw [rows.placeholder]) ∧
    (g.bulkUpdate e items template = .ok c →
      ∃ rows b matched assigned, c.Carries e e.mapped items rows b ∧
        declared (marks c.tokens) = e.updateSources rows ∧
        matchMembers e template = .ok matched ∧ b.Joins matched assigned ∧
        ∃ middle, c.tokens = spaced .update ++ [Token.alias e.bulkAlias] ++ middle ++
          clause .on (Member.allEqualShipped e.bulkAlias matched)) ∧
    (g.bulkUpsert e items template = .ok c →
      ∃ rows b matched assigned, c.Carries e e.mapped items rows b ∧
        declared (marks c.tokens) = e.updateSources rows ++ e.insertSources rows ∧
        matchMembers e template = .ok matched ∧ b.Joins matched assigned ∧ b.absent = b.on ∧
        (∃ middle middle', c.tokens = spaced .update ++ [Token.alias e.bulkAlias] ++ middle ++
          clause .on (Member.allEqualShipped e.bulkAlias matched) ++ [Token.word .semicolon, .word .space] ++
          (spaced .insert ++ spaced .into ++ [e.reference] ++ middle' ++
            clause .whereKw (Member.allEqualShipped e.bulkAlias matched) ++ [Token.word .rparen])) ∧
        ((e.mapped.map Member.columnName).Nodup → b.Completes rows.records)) := by
  refine ⟨fun h => ?_, fun h => ?_, fun h => ?_⟩
  · obtain ⟨rows, hrows, rfl⟩ := bulkInsert_eq_ok.1 h
    have hships := ships_ofRows hrows
    refine ⟨rows, _, ⟨rfl, hships, bulk?_inserting rfl, agrees_inserting hships.columns⟩,
      [Token.word .space] ++ parenthesized (Member.columnList none e.insertable) ++ [Token.word .space] ++
        spaced .select ++ Member.columnList none e.insertable, ?_⟩
    simp only [Entity.insertHead, List.append_assoc, List.cons_append, List.nil_append]
  · obtain ⟨matched, rows, ts, hmatch, hrows, hupdating, rfl⟩ := bulkUpdate_eq_ok.1 h
    obtain ⟨hmatched, hmapped⟩ := matched_of_matchMembers hmatch
    have hships := ships_ofRows hrows
    refine ⟨rows, _, matched, _, ⟨rfl, hships, bulk?_updating hmatched hupdating,
      agrees_updating hships.columns hmapped⟩, (declares_bulkUpdating hupdating).declared_marks, hmatch,
      joins_updating e matched, exists_bulkUpdating_eq hupdating⟩
  · obtain ⟨matched, rows, updating, hmatch, hrows, hupdating, rfl⟩ := bulkUpsert_eq_ok.1 h
    obtain ⟨hmatched, hmapped⟩ := matched_of_matchMembers hmatch
    have hships := ships_ofRows hrows
    refine ⟨rows, _, matched, _, ⟨rfl, hships, bulk?_upserting hmatched hupdating rfl,
      agrees_upserting hships.columns hmapped⟩, ?_, hmatch, joins_upserting e matched, rfl, ?_,
      fun hnodup => completes_upserting hnodup hmapped⟩
    · have hsemicolon : Declares [.word .semicolon, .word .space] [] := Declares.sourceless (by decide)
      have hboth := ((declares_bulkUpdating hupdating).append hsemicolon).append
        (declares_bulkInserting e rows matched g.dirtyRead)
      rw [List.append_nil] at hboth
      exact hboth.declared_marks
    · obtain ⟨middle, hmiddle⟩ := exists_bulkUpdating_eq hupdating
      obtain ⟨middle', hmiddle'⟩ := exists_bulkInserting_eq e rows matched g.dirtyRead
      refine ⟨middle, middle', ?_⟩
      rw [← hmiddle, ← hmiddle']

namespace Enrolment

/-- Places in clubs, which are shipped in bulk. -/
def place : Entity where
  name := "Place"
  tableType := some "PlaceTable"
  members := [{ name := "Id", identity := true }, { name := "Pupil", column := some "PupilId" },
    { name := "Club" }]

/-- Places of two pupils, one of whom is in no club. -/
def places : List Row := [⟨[("Pupil", .int 7), ("Club", .text "Chess")]⟩, ⟨[("Pupil", .int 8)]⟩]

/-- Places are found by their pupils. -/
def samePupil : Expr := .compare (.member ⟨0, "Pupil"⟩) .eq (.value (.int 0))

end Enrolment

open Enrolment in
theorem bulk_agrees_places : ∃ inserted updated upserted : Command,
    (∃ rows b, inserted.Carries place place.insertable places rows b) ∧
    (∃ rows b matched assigned, updated.Carries place place.mapped places rows b ∧
      b.Joins matched assigned) ∧
    (∃ rows b matched assigned, upserted.Carries place place.mapped places rows b ∧
      b.Joins matched assigned ∧ b.Completes rows.records) := by
  have hinsert : ∃ c, ({} : Generator).bulkInsert place places = .ok c := ⟨_, rfl⟩
  have hupdate : ∃ c, ({} : Generator).bulkUpdate place places samePupil = .ok c := ⟨_, rfl⟩
  have hupsert : ∃ c, ({} : Generator).bulkUpsert place places samePupil = .ok c := ⟨_, rfl⟩
  obtain ⟨inserted, hinsert⟩ := hinsert
  obtain ⟨updated, hupdate⟩ := hupdate
  obtain ⟨upserted, hupsert⟩ := hupsert
  have hdistinct : (place.mapped.map Member.columnName).Nodup := by decide
  refine ⟨inserted, updated, upserted, ?_, ?_, ?_⟩
  · obtain ⟨rows, b, hcarries, -⟩ := (bulk_agrees {} place places samePupil inserted).1 hinsert
    exact ⟨rows, b, hcarries⟩
  · obtain ⟨rows, b, matched, assigned, hcarries, -, -, hjoins, -⟩ :=
      (bulk_agrees {} place places samePupil updated).2.1 hupdate
    exact ⟨rows, b, matched, assigned, hcarries, hjoins⟩
  · obtain ⟨rows, b, matched, assigned, hcarries, -, -, hjoins, -, -, hcompletes⟩ :=
      (bulk_agrees {} place places samePupil upserted).2.2 hupsert
    exact ⟨rows, b, matched, assigned, hcarries, hjoins, hcompletes hdistinct⟩

end Rowgraph
