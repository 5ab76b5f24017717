import Rowgraph.Proofs.Command.Layout

/-!
# Upserts

An upsert is an update and, for the case that it changes nothing, an insertion of what it assigns. Both are read
off the tokens alone: an update as the columns that it sets, each with what it is set to
(`Tokens.assignments?`), and an insertion as its columns, each with the value in the same place of the other list
(`Tokens.insertions?`). They are the same pairs. The value of each placeholder is the one that was given for the
column, although the predicate of the update may compare the same members with values of its own
(`upsert_assigns`).
-/

set_option autoImplicit false

namespace Rowgraph

open Tokens

namespace Tokens

/-- The column that an item of an update sets, and what it is set to. -/
def assignment? : List Token → Option (String × Token)
  | [.ident column, .word .eq, t] => some (column, t)
  | _ => none

/-- An item that is one token. -/
def single? : List Token → Option Token
  | [t] => some t
  | _ => none

/-- The columns that an update sets, each with what it is set to. -/
def assignments? (ts : List Token) : Option (List (String × Token)) :=
  match ts.head?, phrases ts with
  | some (.word .update), [⟨.set, items⟩, ⟨.filter, _⟩] => items.mapM assignment?
  | _, _ => none

/-- The columns that an insertion writes, each with the value in the same place. -/
def insertions? (ts : List Token) : Option (List (String × Token)) :=
  match ts.head?, phrases ts with
  | some (.word .insert), [⟨.columns, columns⟩, ⟨.values, values⟩] => do
    let columns ← columns.mapM column?
    let values ← values.mapM single?
    if columns.length = values.length then some (columns.zip values) else none
  | _, _ => none

theorem text_append (ts us : List Token) : text (ts ++ us) = text ts ++ text us := by
  rw [text, List.flatMap_append, String.ofList_append]
  rfl

/-- What is written in front of a statement that runs only after one that changed nothing. -/
theorem text_otherwise (ts : List Token) :
    text (Entity.otherwise ts) = "; IF @@ROWCOUNT = 0 " ++ text ts := by
  have hsplit : Entity.otherwise ts = Entity.otherwise [] ++ ts := by simp [Entity.otherwise, clause]
  rw [hsplit, text_append]
  rfl

/-- A condition is the only item of its phrase, if there is anything in it. -/
theorem Inner.eq_marks_of_listed {ts item : List Token} (h : Inner ts) (hitem : item ∈ listed (marks ts)) :
    item = marks ts := by
  have hitems := h.keeps 0 (Nat.le_refl 0) []
  rw [List.append_nil, itemsFrom, List.modifyHead_cons, List.append_nil] at hitems
  rw [listed, hitems] at hitem
  split at hitem
  · cases hitem
  · exact List.mem_singleton.1 hitem

end Tokens

/-- The column that is assigned to, and the placeholder that it gets. -/
def Assignment.pair (a : Assignment) : String × Token := (a.member.columnName, a.placeholder)

section Reading

variable {e : Entity} {as : List Assignment} {condition : List Token}

theorem assignments?_updating (hplaced : Assignment.Placed as) (h : Inner condition) :
    assignments? (e.updating as condition) = some (as.map Assignment.pair) := by
  have hhead : (e.updating as condition).head? = some (.word .update) := rfl
  rw [assignments?, hhead, (phrased_updating hplaced h).phrases_eq, Phrase.setOf, Phrase.condition]
  dsimp only
  rw [List.mapM_map]
  exact mapM_eq_some fun a _ => rfl

theorem insertions?_insertion (e : Entity) (hplaced : Assignment.Placed as) :
    insertions? (e.insertion as) = some (as.map Assignment.pair) := by
  have hhead : (e.insertion as).head? = some (.word .insert) := rfl
  have hcolumns : ((Assignment.members as).map fun m => [Token.ident m.columnName]).mapM column? =
      some (as.map fun a => a.member.columnName) := by
    rw [Assignment.members, List.map_map, List.mapM_map]
    exact mapM_eq_some fun a _ => rfl
  have hvalues : (as.map fun a => [a.placeholder]).mapM single? = some (as.map (·.placeholder)) := by
    rw [List.mapM_map]
    exact mapM_eq_some fun a _ => rfl
  rw [insertions?, hhead, (phrased_insertion hplaced).phrases_eq, Phrase.columnsOf, Phrase.valuesOf]
  dsimp only
  rw [hcolumns, hvalues]
  -- both lists are made of the assignments, so that neither is longer
  change (if (as.map fun a => a.member.columnName).length = (as.map (·.placeholder)).length then _ else none) = _
  rw [if_pos (by rw [List.length_map, List.length_map]), List.zip_map']
  rfl

end Reading

/-! ## What is bound -/

/-- What is bound goes on from what was bound before. -/
theorem Writes.extends {ps ps' : Parameters} {ts : List Token} (h : Writes ps ts ps') : ps'.Extends ps := by
  obtain ⟨new, hnew, -⟩ := h.added
  exact ⟨new, hnew.symm⟩

section Bound

variable {g : Generator} {e : Entity} {values : Row} {as : List Assignment} {ps ps₁ : Parameters}

/-- Each named value has the column of the member of that name, and a placeholder for itself. -/
theorem forall₂_pairs {columns : List (String × Value)} {ms : List Member}
    (h : List.Forall₂ (fun c m => e.resolve c.1 = .ok m) columns ms) :
    ∀ {as : List Assignment}, List.Forall₂ (Assignment.Assigns ps) as (ms.zip (columns.map (·.2))) →
      List.Forall₂ (fun c pair => ∃ m, e.resolve c.1 = .ok m ∧ pair.1 = m.columnName ∧
        pair.2.placeholder?.bind ps.value? = some c.2) columns (as.map Assignment.pair) := by
  induction h with
  | nil =>
    intro as has
    cases has
    exact .nil
  | cons hm _ ih =>
    intro as has
    cases has with
    | cons ha hrest => exact .cons ⟨_, hm, congrArg Member.columnName ha.1, ha.2⟩ (ih hrest)

/-- What is bound behind them leaves the named values as they are. -/
theorem pairs_ofValues (h : Yields (Assignment.ofValues e values) g.unbound as ps₁) (hlater : ps.Extends ps₁) :
    List.Forall₂ (fun c pair => ∃ m, e.resolve c.1 = .ok m ∧ pair.1 = m.columnName ∧
      pair.2.placeholder?.bind ps.value? = some c.2) values.columns (as.map Assignment.pair) := by
  obtain ⟨-, ms, hresolve, hbind⟩ := yields_ofValues.1 h
  have hextends : ps.Extends (g.unbound.bindAll (ms.zip (values.columns.map (·.2)))).2 := by
    rw [hbind]
    exact hlater
  have hassigns := Parameters.assigns_bindAll _ _ hextends
  rw [hbind] at hassigns
  exact forall₂_pairs hresolve hassigns

/-- No placeholder of a named value is one of the condition. -/
theorem not_mem_condition {scope : Scope} {filter : Expr} {condition : Condition}
    (h : Yields (Assignment.ofValues e values) g.unbound as ps₁)
    (hcondition : Condition.ofExpr scope filter ps₁ = (.ok condition, ps)) :
    ∀ a ∈ as, a.placeholder ∉ condition.tokens := by
  intro a ha hmem
  have hwrites := (Assignment.ofValues_writes h).append (Condition.ofExpr_writes hcondition)
  obtain ⟨new, hnew, hwritten⟩ := hwrites.added
  rw [show g.unbound.entries = [] from rfl, List.nil_append] at hnew
  -- no two placeholders of the statement are the same, and those of the values stand in front
  have hnodup := nodup_placeholders (hwrites.distinct List.nodup_nil)
  rw [hnew, ← hwritten, placeholders_append] at hnodup
  obtain ⟨-, -, hapart⟩ := List.nodup_append.1 hnodup
  have hplaced : a.placeholder.isPlaceholder = true := (assigned_of_ofValues h).2.2 a ha
  have hassigned : a.placeholder ∈ placeholders (as.map (·.placeholder)) :=
    List.mem_filter.2 ⟨List.mem_map_of_mem ha, hplaced⟩
  exact hapart _ hassigned _ (List.mem_filter.2 ⟨hmem, hplaced⟩) rfl

end Bound

/-! ## Updates and upserts -/

/-- An upsert fails just where the update does, and with the same error. Otherwise it has the parameters of the
update, and its text goes on from that of the update with an insertion for the case that no row was changed. What
the insertion writes and what the update sets are the same columns with the same placeholders, in the order of the
named values: each is the column of the member of that name, with a placeholder for its value, and none of the
placeholders is in the condition. -/
theorem upsert_assigns (g : Generator) (e : Entity) (values : Row) (filter : Expr) :
    (∀ cause, g.upsert e values filter = .error cause ↔ g.update e values filter = .error cause) ∧
    ∀ c, g.update e values filter = .ok c → ∃ d insertion pairs, g.upsert e values filter = .ok d ∧
      d.params = c.params ∧
      d.statement.sql = c.statement.sql ++ "; IF @@ROWCOUNT = 0 " ++ Tokens.text insertion ∧
      assignments? c.tokens = some pairs ∧ insertions? insertion = some pairs ∧
      List.Forall₂ (fun named pair => ∃ m, e.resolve named.1 = .ok m ∧ pair.1 = m.columnName ∧
        pair.2.placeholder?.bind d.params.value? = some named.2) values.columns pairs ∧
      ∀ pair ∈ pairs, ∀ p ∈ phrases c.tokens, p.kind = .filter → ∀ item ∈ p.items, pair.2 ∉ item := by
  constructor
  · intro cause
    -- both fail where the values or the predicate do, whatever is made of them
    have hupsert : g.upsert e values filter = .error cause ↔ _ := command_where_eq_error
      (f := fun as condition => e.updating as condition ++ Entity.otherwise (e.insertion as))
    have hupdate : g.update e values filter = .error cause ↔ _ := command_where_eq_error
    exact hupsert.trans hupdate.symm
  · intro c hc
    obtain ⟨as, condition, ps₁, ps, has, hcondition, rfl⟩ := update_eq_ok.1 hc
    obtain ⟨-, -, hplaced⟩ := assigned_of_ofValues has
    have hinner := Condition.inner_ofExpr hcondition
    have hlater := (Condition.ofExpr_writes hcondition).extends
    refine ⟨_, e.insertion as, as.map Assignment.pair,
      upsert_eq_ok.2 ⟨as, condition, ps₁, ps, has, hcondition, rfl⟩, rfl, ?_,
      assignments?_updating hplaced hinner, insertions?_insertion e hplaced, pairs_ofValues has hlater, ?_⟩
    · rw [Command.statement, Command.statement, text_append, text_otherwise, String.append_assoc]
    · intro pair hpair p hp hkind item hitem
      obtain ⟨a, ha, rfl⟩ := List.mem_map.1 hpair
      rw [(phrased_updating hplaced hinner).phrases_eq] at hp
      rcases List.mem_pair.1 hp with rfl | rfl
      · cases hkind
      · rw [hinner.eq_marks_of_listed hitem]
        exact fun hmem => not_mem_condition has hcondition a ha (List.mem_filter.1 hmem).1

/-- A name that is given twice, and a predicate on the same member. -/
theorem upsert_assigns_renamed :
    let values : Row := ⟨[("Name", .text "Chess"), ("Name", .text "Go")]⟩
    let filter := Expr.compare (.member ⟨0, "Name"⟩) .eq (.value (.text "Go"))
    let set := [.ident "Name", .word .space, .word .eq, .word .space, .param "Name", .word .comma, .word .space,
      .ident "Name", .word .space, .word .eq, .word .space, .param "Name1"]
    let c : Command :=
      { tokens := spaced .update ++ [Enrolment.club.reference] ++ clause .set set ++
          clause .whereKw [.ident "Name", .word .space, .word .eq, .word .space, .param "Name2"]
        params := ⟨false, [⟨"Name", .text "Chess", none, false⟩, ⟨"Name1", .text "Go", none, false⟩,
          ⟨"Name2", .text "Go", none, false⟩]⟩ }
    ({} : Generator).update Enrolment.club values filter = .ok c ∧ ∃ d insertion,
      ({} : Generator).upsert Enrolment.club values filter = .ok d ∧ d.params = c.params ∧
        d.statement.sql = c.statement.sql ++ "; IF @@ROWCOUNT = 0 " ++ Tokens.text insertion ∧
        insertions? insertion = some [("Name", .param "Name"), ("Name", .param "Name1")] := by
  intro values filter set c
  have hc : ({} : Generator).update Enrolment.club values filter = .ok c := rfl
  obtain ⟨d, insertion, pairs, hd, hparams, hsql, hset, hinserted, -⟩ :=
    (upsert_assigns {} Enrolment.club values filter).2 c hc
  have hpairs : assignments? c.tokens = some [("Name", .param "Name"), ("Name", .param "Name1")] := by decide
  rw [← hset, hpairs] at hinserted
  exact ⟨hc, d, insertion, hd, hparams, hsql, hinserted⟩

end Rowgraph
