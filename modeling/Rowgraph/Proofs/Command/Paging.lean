import Rowgraph.Proofs.Columns.Resolution
import Rowgraph.Proofs.Command.Body

/-!
# Ordering and paging

What a statement says about the order and the number of its rows, read off its tokens at any depth of
parentheses (`Tokens.rowClauses`). A query says it once, in the outermost query, whether its rows are grouped
or not: TOP where it only takes rows, and behind an ordering OFFSET, with FETCH behind it, where it skips rows
too (`Query.paging`). Nothing else in the statement says anything about it, since the text within its clauses
does not (`Unpaged.of_body`). A query that compiles without numbers of rows compiles with them just if the
server can count so far (`select_paging`).
-/

set_option autoImplicit false

namespace Rowgraph

/-- A clause about the order or the number of the rows. A count that is not written as it should be is none. -/
inductive RowClause where
  | top (count : Option Int)
  | orderBy (items : List (List Token))
  | offset (count : Option Int)
  | fetch (count : Option Int)
  deriving DecidableEq

/-- A clause and the number of parentheses around it. -/
structure PlacedClause where
  depth : Nat
  clause : RowClause
  deriving DecidableEq

/-- The words of such clauses. -/
def Word.pagers : List Word := [.top, .orderBy, .offset, .fetch]

/-- Is the token neither a parenthesis nor the word of such a clause? -/
def Token.isUnpaging : Token → Bool
  | .word w => !(Word.lparen :: Word.rparen :: Word.pagers).contains w
  | _ => true

namespace RowClause

/-- The number behind TOP, in its parentheses. -/
def topCount? : List Token → Option Int
  | .word .lparen :: .int n :: .word .rparen :: _ => some n
  | _ => none

/-- The number behind OFFSET. -/
def offsetCount? : List Token → Option Int
  | .int n :: .word .rows :: _ => some n
  | _ => none

/-- The number behind FETCH. -/
def fetchCount? : List Token → Option Int
  | .word .next :: .int n :: .word .rows :: .word .only :: _ => some n
  | _ => none

/-- The clause that a word begins. -/
def opened? : Word → List Token → Option RowClause
  | .top, ts => some (.top (topCount? ts))
  | .orderBy, ts => some (.orderBy (Tokens.listed ts))
  | .offset, ts => some (.offset (offsetCount? ts))
  | .fetch, ts => some (.fetch (fetchCount? ts))
  | _, _ => none

/-- The rows that a clause keeps of rows that are in order already. -/
def keep {α : Type} (rows : List α) : RowClause → List α
  | .top (some n) => rows.take n.toNat
  | .offset (some n) => rows.drop n.toNat
  | .fetch (some n) => rows.take n.toNat
  | _ => rows

end RowClause

namespace Tokens

/-- The clauses about rows in tokens without spaces, so many parentheses being open. -/
def rowClausesFrom : Nat → List Token → List PlacedClause
  | _, [] => []
  | depth, .word .lparen :: ts => rowClausesFrom (depth + 1) ts
  | depth, .word .rparen :: ts => rowClausesFrom (depth - 1) ts
  | depth, .word w :: ts =>
    ((RowClause.opened? w ts).map (PlacedClause.mk depth)).toList ++ rowClausesFrom depth ts
  | depth, _ :: ts => rowClausesFrom depth ts

/-- The clauses of a statement about its rows. -/
def rowClauses (ts : List Token) : List PlacedClause := rowClausesFrom 0 (marks ts)

/-- Do the tokens say nothing about rows, and close their parentheses? -/
def Unpaged (ts : List Token) : Prop :=
  ∀ depth us, rowClausesFrom depth (marks ts ++ us) = rowClausesFrom depth us

end Tokens

open Tokens

/-! ## Text without such clauses -/

theorem rowClausesFrom_unpaging {t : Token} (h : t.isUnpaging = true) (depth : Nat) (ts : List Token) :
    rowClausesFrom depth (t :: ts) = rowClausesFrom depth ts := by
  cases t with
  | word w =>
    revert h
    cases w <;> intro h <;> first | rfl | cases h
  | _ => rfl

theorem isUnpaging_of_isWithin {t : Token} (h : t.isWithin = true) : t.isUnpaging = true := by
  cases t with
  | word w =>
    revert h
    cases w <;> decide
  | _ => rfl

namespace Tokens.Unpaged

variable {ts us : List Token}

theorem append (h : Unpaged ts) (h' : Unpaged us) : Unpaged (ts ++ us) := by
  intro depth rest
  rw [marks_append, List.append_assoc, h, h']

theorem plain (h : ts.all Token.isUnpaging = true) : Unpaged ts := by
  induction ts with
  | nil => exact fun _ _ => rfl
  | cons t ts ih =>
    rw [List.all_cons, Bool.and_eq_true] at h
    intro depth us
    by_cases hspace : t = .word .space
    · rw [hspace, marks_space]
      exact ih h.2 depth us
    · rw [marks_cons_of_ne hspace, List.cons_append, rowClausesFrom_unpaging h.1]
      exact ih h.2 depth us

theorem parenthesized (h : Unpaged ts) : Unpaged (parenthesized ts) := by
  intro depth us
  rw [marks_parenthesized, List.cons_append, rowClausesFrom, List.append_assoc, h]
  rfl

/-- The text within a clause says nothing about rows. -/
theorem of_body (h : Body ts) : Unpaged ts := by
  induction h with
  | plain h => exact plain (List.all_eq_true.2 fun t ht => isUnpaging_of_isWithin (List.all_eq_true.1 h t ht))
  | append _ _ ih ih' => exact ih.append ih'
  | parenthesized _ ih => exact ih.parenthesized

/-- A clause that is not about rows. -/
theorem clause {w : Word} (hw : (Token.word w).isUnpaging = true) (h : Unpaged ts) : Unpaged (clause w ts) := by
  have hspace : (Token.word .space).isUnpaging = true := rfl
  have hword : Unpaged (.word .space :: spaced w) := plain (by simp [spaced, hw, hspace])
  exact hword.append h

end Tokens.Unpaged

theorem unpaged_table (e : Entity) : Unpaged [e.reference] := Unpaged.plain rfl

theorem unpaged_aliasTokens (scope : Scope) (position : Nat) : Unpaged (Join.aliasTokens scope position) := by
  apply Unpaged.plain
  rw [Join.aliasTokens]
  split <;> rfl

theorem unpaged_hint (dirtyRead : Bool) : Unpaged (Join.hint dirtyRead) := by
  apply Unpaged.plain
  cases dirtyRead <;> rfl

theorem unpaged_clauses {c : Join.Context} {position : Nat} {joins : List Join} {ps ps' : Parameters}
    {ts : List Token} (h : Join.Clauses c position joins ps ts ps') : Unpaged ts := by
  induction h with
  | nil position ps => exact Unpaged.plain rfl
  | @cons position j _ table _ condition _ _ _ _ reference given compiled others ih =>
    obtain ⟨database, schema, rfl⟩ := referenceFrom_eq_ok reference
    have hhead : Unpaged ([Token.word .space] ++ spaced (Join.kindWord j.kind) ++ spaced .join ++
        [Token.table database schema j.entity.tableName]) :=
      Unpaged.plain (by cases j.kind <;> rfl)
    have htable := (hhead.append (unpaged_aliasTokens c.scope position)).append (unpaged_hint c.dirtyRead)
    have hon := Unpaged.clause (w := .on) rfl (Unpaged.of_body (Condition.body_ofExpr compiled))
    exact (htable.append hon).append ih

namespace Query

variable {q : Query} {g : Generator} {ps ps' : Parameters} {ts : List Token}

theorem unpaged_source (h : Yields (q.source g) ps ts ps') : Unpaged ts := by
  obtain ⟨-, joins, filter, ps₁, hjoins, hfilter, rfl⟩ := yields_source.1 h
  have hroot := ((Unpaged.clause (w := .fromKw) rfl (unpaged_table q.root)).append
    (unpaged_aliasTokens q.scope 0)).append (unpaged_hint (q.dirtyRead.getD g.dirtyRead))
  have hrows := hroot.append (unpaged_clauses hjoins)
  cases hfilter with
  | none _ given => exact hrows.append (Unpaged.plain rfl)
  | some given compiled =>
    exact hrows.append (Unpaged.clause rfl (Unpaged.of_body (Condition.body_ofExpr compiled)))

theorem unpaged_selectHead (q : Query) : Unpaged q.selectHead := by
  apply Unpaged.plain
  rw [selectHead]
  split <;> rfl

/-! ## The clauses of a query -/

/-- The clauses in front of the columns of a query. -/
def pagingAhead (q : Query) : List RowClause :=
  match q.skip with
  | none => (q.take.map fun taken : Nat => .top (some taken)).toList
  | some _ => []

/-- The clauses behind the rows of a query that is ordered by these items. -/
def pagingBehind (q : Query) (orders : List (List Token)) : List RowClause :=
  match q.skip with
  | none => if orders = [] then [] else [.orderBy orders]
  | some skipped =>
    .orderBy (if orders = [] then [marks anyOrder] else orders) :: .offset (some skipped) ::
      (q.take.map fun taken : Nat => .fetch (some taken)).toList

/-- The clauses about the rows of a query that is ordered by these items. -/
def paging (q : Query) (orders : List (List Token)) : List RowClause := q.pagingAhead ++ q.pagingBehind orders

/-- Read in order, the clauses keep the rows that are asked for. -/
theorem keep_paging (q : Query) (orders : List (List Token)) {α : Type} (rows : List α) :
    (q.paging orders).foldl RowClause.keep rows =
      q.take.elim id List.take (rows.drop (q.skip.getD 0)) := by
  rw [paging, pagingAhead, pagingBehind]
  cases q.skip with
  | none =>
    rw [Option.getD_none, List.drop_zero]
    cases q.take with
    | none => cases orders <;> rfl
    | some taken => cases orders <;> rfl
  | some skipped =>
    cases q.take with
    | none => rfl
    | some taken => rfl

theorem rowClausesFrom_top (h : q.top = .ok ts) (depth : Nat) (us : List Token) :
    rowClausesFrom depth (marks ts ++ us) =
      q.pagingAhead.map (PlacedClause.mk depth) ++ rowClausesFrom depth us := by
  rw [top.eq_def] at h
  rw [pagingAhead]
  cases hskip : q.skip with
  | some skipped =>
    rw [hskip] at h
    cases htake : q.take with
    | none =>
      rw [htake] at h
      cases h
      rfl
    | some taken =>
      rw [htake] at h
      cases h
      rfl
  | none =>
    rw [hskip] at h
    cases htake : q.take with
    | none =>
      rw [htake] at h
      cases h
      rfl
    | some taken =>
      rw [htake] at h
      obtain ⟨t, ht, hpure⟩ := bind_eq_ok.1 h
      cases hpure
      rw [rowCount_eq_ok ht]
      rfl

/-- Items of an ordering keep apart and say nothing about the number of rows. -/
structure Orders (orders : List (List Token)) : Prop where
  keeps (order : List Token) : order ∈ orders → Keeps 0 order
  nonempty (order : List Token) : order ∈ orders → marks order ≠ []
  unpaged : Unpaged (separated orders)

theorem orders_anyOrder : Orders [anyOrder] where
  keeps := by
    refine List.forall_mem_singleton.2 ?_
    exact (Keeps.within (by decide) (by decide)).parenthesized
  nonempty := List.forall_mem_singleton.2 (by decide)
  unpaged := (Unpaged.plain rfl).parenthesized

theorem rowClausesFrom_orderBy {orders : List (List Token)} (h : Orders orders) (hne : orders ≠ [])
    {us : List Token} (hends : itemsFrom 0 us = [[]]) (depth : Nat) :
    rowClausesFrom depth (marks (clause .orderBy (separated orders)) ++ us) =
      ⟨depth, .orderBy (orders.map marks)⟩ :: rowClausesFrom depth us := by
  have hlisted : listed (marks (separated orders) ++ us) = orders.map marks := by
    rw [listed, itemsFrom_separated hne h.keeps hends, if_neg]
    intro hempty
    obtain ⟨order, rest, rfl⟩ := List.exists_cons_of_ne_nil hne
    exact h.nonempty order List.mem_cons_self (List.cons.inj hempty).1
  have hclause : marks (clause .orderBy (separated orders)) = .word .orderBy :: marks (separated orders) := by
    rw [clause, List.cons_append, marks_space, marks_spaced (by decide)]
  rw [hclause, List.cons_append, ← hlisted, ← h.unpaged depth us]
  rfl

theorem rowClausesFrom_fetch (h : q.fetch = .ok ts) (depth : Nat) :
    rowClausesFrom depth (marks ts) =
      ((q.take.map fun taken : Nat => RowClause.fetch (some taken)).toList).map (PlacedClause.mk depth) := by
  rw [fetch] at h
  cases htake : q.take with
  | none =>
    rw [htake] at h
    cases h
    rfl
  | some taken =>
    rw [htake] at h
    obtain ⟨t, ht, rfl⟩ := map_eq_ok.1 h
    rw [rowCount_eq_ok ht]
    rfl

/-- Behind the rows stand the ordering, the rows skipped and the rows taken, in this order. -/
theorem rowClausesFrom_ending {orders : List (List Token)} (horders : Orders orders)
    (h : q.ending orders = .ok ts) (depth : Nat) :
    rowClausesFrom depth (marks ts) =
      (q.pagingBehind (orders.map marks)).map (PlacedClause.mk depth) := by
  have hempty : orders.map marks = [] ↔ orders = [] := List.map_eq_nil_iff
  rw [ending] at h
  rw [pagingBehind]
  cases hskip : q.skip with
  | none =>
    rw [hskip] at h
    cases h
    -- without rows to skip there is no ordering unless one is given
    by_cases hnil : orders = []
    · rw [hnil]
      rfl
    · have hlist : rowClausesFrom depth (marks (clause .orderBy (separated orders)) ++ []) = _ :=
        rowClausesFrom_orderBy horders hnil rfl depth
      rw [List.append_nil] at hlist
      rw [if_neg (by rwa [List.isEmpty_iff]), hlist]
      simp [hnil, rowClausesFrom]
  | some skipped =>
    rw [hskip] at h
    obtain ⟨t, ht, h⟩ := bind_eq_ok.1 h
    obtain ⟨fetched, hfetched, hpure⟩ := bind_eq_ok.1 h
    cases hpure
    rw [rowCount_eq_ok ht]
    have hpaging : rowClausesFrom depth (marks (offsetClause (.int skipped)) ++ marks fetched) =
        ⟨depth, .offset (some skipped)⟩ ::
          ((q.take.map fun taken : Nat => RowClause.fetch (some taken)).toList).map (PlacedClause.mk depth) := by
      rw [← rowClausesFrom_fetch hfetched]
      rfl
    have hends : itemsFrom 0 (marks (offsetClause (.int skipped)) ++ marks fetched) = [[]] :=
      itemsFrom_ended rfl _
    rw [List.append_assoc, marks_append, marks_append]
    -- OFFSET needs an ordering, so that the one that orders nothing takes the place of none
    by_cases hnil : orders = []
    · have hany := rowClausesFrom_orderBy orders_anyOrder (List.cons_ne_nil _ _) hends depth
      rw [hpaging] at hany
      subst hnil
      exact hany
    · have hlist := rowClausesFrom_orderBy horders hnil hends depth
      rw [hpaging] at hlist
      rw [if_neg (by rwa [List.isEmpty_iff]), hlist]
      simp [hnil]

/-- A query says what it says about its rows in front of its columns and at its end. -/
theorem rowClauses_parts {orders : List (List Token)} {head top middle ending : List Token}
    (hhead : Unpaged head) (htop : q.top = .ok top) (hmiddle : Unpaged middle) (horders : Orders orders)
    (hending : q.ending orders = .ok ending) :
    rowClauses (head ++ top ++ middle ++ ending) =
      (q.paging (orders.map marks)).map (PlacedClause.mk 0) := by
  rw [rowClauses, List.append_assoc, List.append_assoc, marks_append, hhead, marks_append,
    rowClausesFrom_top htop, marks_append, hmiddle, rowClausesFrom_ending horders hending, paging,
    List.map_append]

theorem orders_of_items {orders : List (List Token)} (hitems : ∀ order ∈ orders, Item order)
    (hbody : Body (separated orders)) : Orders orders where
  keeps order horder := (hitems order horder).keeps
  nonempty order horder := (hitems order horder).nonempty
  unpaged := Unpaged.of_body hbody

variable {c : Command}

theorem MakesMembers.rowClauses {list : SelectList} (h : q.MakesMembers g list c) :
    ∃ orders, q.orderBy.mapM (memberOrder q.scope) = .ok orders ∧
      Tokens.rowClauses c.tokens = (q.paging (orders.map marks)).map (PlacedClause.mk 0) := by
  obtain ⟨source, top, orders, ending, hsource, htop, horders, hending, htokens⟩ := h.parts
  have hlist : Unpaged list.tokens := Unpaged.of_body (body_ofPicks h.columns)
  refine ⟨orders, horders, ?_⟩
  rw [htokens, List.append_assoc _ list.tokens]
  exact rowClauses_parts (unpaged_selectHead q) htop (hlist.append (unpaged_source hsource))
    (orders_of_items (item_memberOrders horders) (body_memberOrders horders)) hending

theorem MakesGroups.rowClauses {grouped : List Resolved} {projection : Projection}
    (h : q.MakesGroups g grouped projection c) :
    ∃ orders, q.orderBy.mapM (groupedOrder q.scope projection.columns) = .ok orders ∧
      Tokens.rowClauses c.tokens = (q.paging (orders.map marks)).map (PlacedClause.mk 0) := by
  obtain ⟨items, -, hprojected⟩ := h.projected
  obtain ⟨source, top, orders, ending, hsource, htop, horders, hending, htokens⟩ := h.parts
  have hprojection : Unpaged projection.tokens := Unpaged.of_body (Grouping.body_project hprojected)
  have hgroups : Unpaged (clause .groupBy (Grouping.tokens q.scope grouped)) :=
    Unpaged.clause rfl (Unpaged.of_body (Grouping.body_tokens q.scope grouped))
  have hinner := (((unpaged_selectHead q).append hprojection).append (unpaged_source hsource)).append hgroups
  have hderived : Unpaged (clause .fromKw (parenthesized (q.selectHead ++ projection.tokens ++ source ++
      clause .groupBy (Grouping.tokens q.scope grouped)))) := Unpaged.clause rfl hinner.parenthesized
  have hstar : Unpaged [Token.word .star] := Unpaged.plain rfl
  have hname : Unpaged [Token.word .space, .ident groupedTable] := Unpaged.plain rfl
  refine ⟨orders, horders, ?_⟩
  rw [htokens, List.append_assoc _ _ [Token.word .space, _], List.append_assoc _ [Token.word .star]]
  exact rowClauses_parts (Unpaged.plain rfl) htop (hstar.append (hderived.append hname))
    (orders_of_items (item_groupedOrders horders) (body_groupedOrders horders)) hending

/-! ## Numbers of rows that the server can count to -/

/-- The numbers of rows of a query, each with the clause that it stands in. -/
def counts (q : Query) : List (CountClause × Nat) :=
  match q.skip with
  | none => (q.take.map fun taken => (.top, taken)).toList
  | some skipped => (.offset, skipped) :: (q.take.map fun taken => (.fetch, taken)).toList

/-- Can the server count to all numbers of rows of the query? -/
def Countable (q : Query) : Prop := ∀ count ∈ q.counts, count.2 ≤ maxRowCount

/-- The first number of rows that the server cannot count to. -/
def excess? (q : Query) : Option (CountClause × Nat) := q.counts.find? fun count => maxRowCount < count.2

/-- The query for another part of its result. -/
def repaged (q : Query) (skip take : Option Nat) : Query := { q with skip := skip, take := take }

theorem excess?_eq_none_iff : q.excess? = none ↔ q.Countable := by
  simp [excess?, Countable]

theorem rowCount_eq_of_le {clause : CountClause} {n : Nat} (h : n ≤ maxRowCount) :
    rowCount clause n = .ok (.int n) := if_pos h

theorem rowCount_eq_of_lt {clause : CountClause} {n : Nat} (h : maxRowCount < n) :
    rowCount clause n = .error (.countOutOfRange clause n) := if_neg (Nat.not_le.2 h)

theorem paging_of_countable (h : q.Countable) (orders : List (List Token)) :
    ∃ top ending, q.top = .ok top ∧ q.ending orders = .ok ending := by
  rw [Countable, counts] at h
  cases hskip : q.skip with
  | none =>
    cases htake : q.take with
    | none =>
      simp only [top, ending, hskip, htake]
      exact ⟨_, _, rfl, rfl⟩
    | some taken =>
      have htaken : taken ≤ maxRowCount := by simpa [hskip, htake] using h
      simp only [top, ending, hskip, htake, rowCount_eq_of_le htaken]
      exact ⟨_, _, rfl, rfl⟩
  | some skipped =>
    cases htake : q.take with
    | none =>
      have hskipped : skipped ≤ maxRowCount := by simpa [hskip, htake] using h
      simp only [top, ending, fetch, hskip, htake, rowCount_eq_of_le hskipped]
      exact ⟨_, _, rfl, rfl⟩
    | some taken =>
      obtain ⟨hskipped, htaken⟩ : skipped ≤ maxRowCount ∧ taken ≤ maxRowCount := by
        simpa [hskip, htake] using h
      simp only [top, ending, fetch, hskip, htake, rowCount_eq_of_le hskipped, rowCount_eq_of_le htaken]
      exact ⟨_, _, rfl, rfl⟩

/-- The first number that is too great is what making the query fails with. -/
theorem refusal_of_excess {clause : CountClause} {n : Nat} (h : q.excess? = some (clause, n))
    (orders : List (List Token)) :
    q.top = .error (.countOutOfRange clause n) ∨
      (∃ top, q.top = .ok top) ∧ q.ending orders = .error (.countOutOfRange clause n) := by
  rw [excess?, counts] at h
  cases hskip : q.skip with
  | none =>
    cases htake : q.take with
    | none => simp [hskip, htake] at h
    | some taken =>
      obtain ⟨htaken, rfl, rfl⟩ : maxRowCount < taken ∧ CountClause.top = clause ∧ taken = n := by
        simpa [hskip, htake] using h
      left
      simp only [top, hskip, htake, rowCount_eq_of_lt htaken]
      rfl
  | some skipped =>
    have htop : q.top = .ok [] := by
      rw [top.eq_def, hskip]
      cases q.take <;> rfl
    refine Or.inr ⟨⟨[], htop⟩, ?_⟩
    by_cases hskipped : maxRowCount < skipped
    · obtain ⟨rfl, rfl⟩ : CountClause.offset = clause ∧ skipped = n := by
        simpa [hskip, hskipped] using h
      simp only [ending, hskip, rowCount_eq_of_lt hskipped]
      rfl
    · have hle : skipped ≤ maxRowCount := Nat.not_lt.1 hskipped
      cases htake : q.take with
      | none => simp [hskip, htake, hle] at h
      | some taken =>
        obtain ⟨htaken, rfl, rfl⟩ : maxRowCount < taken ∧ CountClause.fetch = clause ∧ taken = n := by
          simpa [hskip, htake, hskipped] using h
        simp only [ending, fetch, hskip, htake, rowCount_eq_of_le hle, rowCount_eq_of_lt htaken]
        rfl

theorem countable_of_paging {orders : List (List Token)} {top ending : List Token} (htop : q.top = .ok top)
    (hending : q.ending orders = .ok ending) : q.Countable := by
  rw [← excess?_eq_none_iff]
  cases hexcess : q.excess? with
  | none => rfl
  | some count =>
    rcases refusal_of_excess hexcess orders with hrefused | ⟨-, hrefused⟩
    · rw [htop] at hrefused
      cases hrefused
    · rw [hending] at hrefused
      cases hrefused

theorem MakesMembers.repaged {list : SelectList} {skip take : Option Nat} (h : q.MakesMembers g list c)
    (hcounts : (q.repaged skip take).Countable) :
    ∃ c', (q.repaged skip take).MakesMembers g list c' ∧ c'.params = c.params ∧ c'.split = c.split := by
  obtain ⟨source, -, orders, -, hsource, -, horders, -, -⟩ := h.parts
  obtain ⟨top, ending, htop, hending⟩ := paging_of_countable hcounts orders
  exact ⟨{ c with tokens := q.selectHead ++ top ++ list.tokens ++ source ++ ending },
    ⟨h.ungrouped, h.unprojected, h.columns, h.split, h.table,
      source, top, orders, ending, hsource, htop, horders, hending, rfl⟩, rfl, rfl⟩

theorem MakesGroups.repaged {grouped : List Resolved} {projection : Projection} {skip take : Option Nat}
    (h : q.MakesGroups g grouped projection c) (hcounts : (q.repaged skip take).Countable) :
    ∃ c', (q.repaged skip take).MakesGroups g grouped projection c' ∧ c'.params = c.params ∧
      c'.split = c.split := by
  obtain ⟨source, -, orders, -, hsource, -, horders, -, -⟩ := h.parts
  obtain ⟨top, ending, htop, hending⟩ := paging_of_countable hcounts orders
  let tokens := spaced .select ++ top ++ [Token.word .star] ++
    clause .fromKw (parenthesized (q.selectHead ++ projection.tokens ++ source ++
      clause .groupBy (Grouping.tokens q.scope grouped))) ++
    [Token.word .space, .ident groupedTable] ++ ending
  exact ⟨{ c with tokens := tokens }, ⟨h.isGrouped, h.columns, h.projected, h.split, h.table,
    source, top, orders, ending, hsource, htop, horders, hending, rfl⟩, rfl, rfl⟩

theorem countable_of_select (h : g.select q = .ok c) : q.Countable := by
  rcases select_eq_ok.1 h with ⟨list, hmakes⟩ | ⟨grouped, projection, hmakes⟩
  · obtain ⟨-, top, orders, ending, -, htop, -, hending, -⟩ := hmakes.parts
    exact countable_of_paging htop hending
  · obtain ⟨-, top, orders, ending, -, htop, -, hending, -⟩ := hmakes.parts
    exact countable_of_paging htop hending

/-- For every part of a result that the server can count to, the statement is made with the same parameters
and the same split. -/
theorem select_repaged {skip take : Option Nat} (h : g.select q = .ok c)
    (hcounts : (q.repaged skip take).Countable) :
    ∃ c', g.select (q.repaged skip take) = .ok c' ∧ c'.params = c.params ∧ c'.split = c.split := by
  rcases select_eq_ok.1 h with ⟨list, hmakes⟩ | ⟨grouped, projection, hmakes⟩
  · obtain ⟨c', hmakes', hsame⟩ := hmakes.repaged hcounts
    exact ⟨c', select_eq_ok.2 (Or.inl ⟨list, hmakes'⟩), hsame⟩
  · obtain ⟨c', hmakes', hsame⟩ := hmakes.repaged hcounts
    exact ⟨c', select_eq_ok.2 (Or.inr ⟨grouped, projection, hmakes'⟩), hsame⟩

theorem select_of_refuses {cause : Error} (h : Refuses (q.select g) g.unbound cause) :
    g.select q = .error cause := by
  rw [Refuses] at h
  rw [Generator.select, Generator.run]
  rcases hrun : (q.select g).run.run { inlineNumbers := g.inlineNumbers } with ⟨result, ps⟩
  rw [Generator.unbound, hrun] at h
  cases h
  rfl

/-- A query that is made without numbers of rows fails with the first number that is too great. -/
theorem select_of_excess {clause : CountClause} {n : Nat} (h : g.select (q.repaged none none) = .ok c)
    (hexcess : q.excess? = some (clause, n)) : g.select q = .error (.countOutOfRange clause n) := by
  apply select_of_refuses
  rcases select_eq_ok.1 h with ⟨list, hmakes⟩ | ⟨grouped, projection, hmakes⟩
  · obtain ⟨source, -, orders, -, hsource, -, horders, -, -⟩ := hmakes.parts
    have hcheck : Join.check q.joins = .ok () := (yields_source.1 hsource).1
    have hout : q.output = .ok (.members list) :=
      output_eq_ok.2 (Or.inl ⟨list, hmakes.ungrouped, hmakes.unprojected, hmakes.columns, rfl⟩)
    -- the number for TOP is read first, the others behind everything else
    have htokens : Refuses (q.selectMembers g list) g.unbound (.countOutOfRange clause n) := by
      rcases refusal_of_excess hexcess orders with htop | ⟨⟨top, htop⟩, hending⟩
      · exact refuses_lift_bind.2 (Or.inl htop)
      · exact refuses_lift_bind.2 (Or.inr ⟨top, htop, refuses_bind.2 (Or.inr ⟨source, _, hsource,
          refuses_lift_bind.2 (Or.inr ⟨orders, horders, refuses_lift_bind.2 (Or.inl hending)⟩)⟩)⟩)
    exact refuses_lift_bind.2 (Or.inr ⟨(), hcheck, refuses_lift_bind.2
      (Or.inr ⟨_, hout, refuses_bind.2 (Or.inl htokens)⟩)⟩)
  · obtain ⟨source, -, orders, -, hsource, -, horders, -, -⟩ := hmakes.parts
    obtain ⟨items, hitems, hprojected⟩ := hmakes.projected
    have hcheck : Join.check q.joins = .ok () := (yields_source.1 hsource).1
    have hout : q.output = .ok (.groups grouped projection) := output_eq_ok.2
      (Or.inr ⟨items, grouped, projection, hmakes.isGrouped, hitems, hmakes.columns, hprojected, rfl⟩)
    -- the rows of the groups come before either
    have htokens : Refuses (q.selectGroups g grouped projection) g.unbound (.countOutOfRange clause n) := by
      refine refuses_bind.2 (Or.inr ⟨source, _, hsource, ?_⟩)
      rcases refusal_of_excess hexcess orders with htop | ⟨⟨top, htop⟩, hending⟩
      · exact refuses_lift_bind.2 (Or.inl htop)
      · exact refuses_lift_bind.2 (Or.inr ⟨top, htop,
          refuses_lift_bind.2 (Or.inr ⟨orders, horders, refuses_lift_bind.2 (Or.inl hending)⟩)⟩)
    exact refuses_lift_bind.2 (Or.inr ⟨(), hcheck, refuses_lift_bind.2
      (Or.inr ⟨_, hout, refuses_bind.2 (Or.inl htokens)⟩)⟩)

/-- Do the items of an ordering go in the directions that the query orders by? -/
def Directed (q : Query) (orders : List (List Token)) : Prop :=
  List.Forall₂ (fun item order => ∃ column, order = column ++ [Token.word item.direction.word]) q.orderBy orders

theorem directed_of_mapM {order : OrderItem → Except Error (List Token)} {orders : List (List Token)}
    (h : q.orderBy.mapM order = .ok orders)
    (hordered : ∀ item ts, order item = .ok ts → ∃ column, ts = ordered column item.direction) :
    q.Directed (orders.map marks) := by
  rw [Directed, List.forall₂_map_right_iff]
  refine (mapM_eq_ok_iff.1 h).imp fun item ts hitem => ?_
  obtain ⟨column, rfl⟩ := hordered item ts hitem
  refine ⟨marks column, ?_⟩
  rw [ordered, marks_append, marks_space]
  cases item.direction <;> rfl

theorem rowClauses_select (h : g.select q = .ok c) :
    ∃ orders, q.Directed orders ∧ Tokens.rowClauses c.tokens = (q.paging orders).map (PlacedClause.mk 0) := by
  rcases select_eq_ok.1 h with ⟨list, hmakes⟩ | ⟨grouped, projection, hmakes⟩
  · obtain ⟨orders, horders, hclauses⟩ := hmakes.rowClauses
    refine ⟨orders.map marks, directed_of_mapM horders fun item ts hitem => ?_, hclauses⟩
    obtain ⟨r, rfl⟩ := memberOrder_eq_ok hitem
    exact ⟨_, rfl⟩
  · obtain ⟨orders, horders, hclauses⟩ := hmakes.rowClauses
    refine ⟨orders.map marks, directed_of_mapM horders fun item ts hitem => ?_, hclauses⟩
    obtain ⟨name, rfl⟩ := groupedOrder_eq_ok hitem
    exact ⟨_, rfl⟩

end Query

/-- A statement says how many rows it skips and takes once, in its outermost query and behind an ordering where
it skips any, with the numbers as they are given; and the rows that it keeps of those in order are the ones
asked for. A query that is made without such numbers is made with them if the server can count to them all,
and fails with the first one otherwise. -/
theorem select_paging (g : Generator) (q : Query) :
    (∀ c, g.select q = .ok c →
      q.Countable ∧
      (∃ orders, q.Directed orders ∧ rowClauses c.tokens = (q.paging orders).map (PlacedClause.mk 0)) ∧
      ∀ {α : Type} (rows : List α), ((rowClauses c.tokens).map (·.clause)).foldl RowClause.keep rows =
        q.take.elim id List.take (rows.drop (q.skip.getD 0))) ∧
    ∀ c, g.select (q.repaged none none) = .ok c →
      ((∃ c', g.select q = .ok c') ↔ q.Countable) ∧
      ∀ clause n, g.select q = .error (.countOutOfRange clause n) ↔ q.excess? = some (clause, n) := by
  constructor
  · intro c h
    obtain ⟨orders, horders, hclauses⟩ := Query.rowClauses_select h
    refine ⟨Query.countable_of_select h, ⟨orders, horders, hclauses⟩, fun rows => ?_⟩
    rw [hclauses, List.map_map, ← Query.keep_paging q orders]
    congr 1
    exact List.map_id _
  · intro c h
    have hmade : q.Countable → ∃ c', g.select q = .ok c' := by
      intro hcounts
      have hrepaged : ((q.repaged none none).repaged q.skip q.take).Countable := hcounts
      obtain ⟨c', hc', -⟩ := Query.select_repaged h hrepaged
      exact ⟨c', hc'⟩
    refine ⟨⟨fun ⟨c', hc'⟩ => Query.countable_of_select hc', hmade⟩, fun clause n => ⟨fun hrefused => ?_,
      Query.select_of_excess h⟩⟩
    cases hexcess : q.excess? with
    | none =>
      obtain ⟨c', hc'⟩ := hmade (Query.excess?_eq_none_iff.1 hexcess)
      rw [hrefused] at hc'
      cases hc'
    | some count =>
      rw [Query.select_of_excess h hexcess] at hrefused
      cases hrefused
      rfl

namespace Enrolment

/-- The second and the third of the clubs with the most members. -/
def runnersUp : Query := sizes.repaged (some 1) (some 2)

/-- More clubs than the server can count to, and as many before them. -/
def uncountable : Query := sizes.repaged (some (Query.maxRowCount + 1)) (some (Query.maxRowCount + 1))

end Enrolment

open Enrolment in
theorem select_paging_sizes :
    (∃ c, ({} : Generator).select runnersUp = .ok c ∧ runnersUp.Countable ∧
      ∃ orders, runnersUp.Directed orders ∧
        rowClauses c.tokens = (runnersUp.paging orders).map (PlacedClause.mk 0)) ∧
    ∃ c, ({} : Generator).select (uncountable.repaged none none) = .ok c ∧
      ({} : Generator).select uncountable = .error (.countOutOfRange .offset (Query.maxRowCount + 1)) := by
  have hpage : ∃ c, ({} : Generator).select runnersUp = .ok c := ⟨_, rfl⟩
  have hwhole : ∃ c, ({} : Generator).select (uncountable.repaged none none) = .ok c := ⟨_, rfl⟩
  have hexcess : uncountable.excess? = some (.offset, Query.maxRowCount + 1) := by decide
  obtain ⟨c, hc⟩ := hpage
  obtain ⟨d, hd⟩ := hwhole
  obtain ⟨hcounts, hclauses, -⟩ := (select_paging {} runnersUp).1 c hc
  exact ⟨⟨c, hc, hcounts, hclauses⟩, d, hd, (((select_paging {} uncountable).2 d hd).2 _ _).2 hexcess⟩

example : (({} : Generator).select Enrolment.runnersUp).map (fun c => rowClauses c.tokens) =
    .ok [⟨0, .orderBy [[.ident "Size", .word .desc]]⟩, ⟨0, .offset (some 1)⟩, ⟨0, .fetch (some 2)⟩] := rfl

end Rowgraph
