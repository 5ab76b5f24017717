import Rowgraph.Proofs.Command.Inserted

/-!
# Lists with an item

The lists of a statement have an item each, and an insertion is fed one item for each of its columns
(`perform_lists`). Two operations do not see to that themselves: the insertion of shipped rows writes no
column for an entity whose members are all generated, and a query without joins selects nothing from a table
without mapped members.
-/

set_option autoImplicit false

namespace Rowgraph

/-- The column lists of insertions, each with the first list behind it that may feed it. -/
def Tokens.feeding : List Phrase → List (Phrase × Option Phrase)
  | [] => []
  | p :: ps =>
    if p.isColumns then (p, ps.find? fun q => q.kind.feeds) :: feeding ps else feeding ps

open Tokens

theorem feeding_append {ps : List Phrase} (h : ∀ p ∈ ps, p.kind ≠ .columns) (qs : List Phrase) :
    feeding (ps ++ qs) = feeding qs := by
  induction ps with
  | nil => rfl
  | cons p ps ih =>
    rw [List.forall_mem_cons] at h
    have hp : ¬ p.isColumns = true := fun hkind => h.1 (eq_of_beq hkind)
    rw [List.cons_append, feeding, if_neg hp, ih h.2]

theorem Command.InsertsNothing.feeding_eq {c : Command} (h : c.InsertsNothing) :
    feeding (phrases c.tokens) = [] := by
  have hall := feeding_append h []
  rwa [List.append_nil] at hall

/-- An insertion has what feeds it behind it. -/
theorem Command.Inserts.feeding_eq {c : Command} {ms : List Member} (h : c.Inserts ms) :
    ∃ feed, feeding (phrases c.tokens) = [(.columnsOf ms, some feed)] ∧ feed.items.length = ms.length := by
  obtain ⟨before, middle, rest, feed, hphrases, hbefore, hmiddle, hrest, hfeeds, hlength, -⟩ := h
  have hfind : (middle ++ feed :: rest).find? (fun q => q.kind.feeds) = some feed := by
    rw [List.find?_append, List.find?_eq_none.2, Option.none_or,
      List.find?_cons_of_pos (p := fun q : Phrase => q.kind.feeds) hfeeds]
    intro q hq
    rw [(hmiddle q hq).2]
    exact Bool.false_ne_true
  have hfeed : ∀ p ∈ feed :: rest, p.kind ≠ .columns := by
    refine List.forall_mem_cons.2 ⟨fun hkind => ?_, fun p hp => (hrest p hp).other⟩
    rw [hkind] at hfeeds
    cases hfeeds
  have hbehind : feeding (middle ++ feed :: rest) = [] := by
    rw [feeding_append fun p hp => (hmiddle p hp).1.other]
    have hnone := feeding_append hfeed []
    rwa [List.append_nil] at hnone
  refine ⟨feed, ?_, hlength⟩
  rw [hphrases, feeding_append fun p hp => (hbefore p hp).other, feeding, if_pos (by rfl), hfind, hbehind]

/-- Every insertion is fed as many items as it has columns; and every list has an item, and no item that is
empty, unless the operation inserts shipped rows without a column or selects all of nothing. -/
theorem perform_lists {g : Generator} {caches : Caches} {op : Operation} {cs : List Command}
    (h : g.perform caches op = .ok cs) : ∀ c ∈ cs,
      (∀ pair ∈ feeding (phrases c.tokens),
        ∃ feed, pair.2 = some feed ∧ feed.items.length = pair.1.items.length) ∧
      ((∀ p ∈ phrases c.tokens, p.kind.isList = true → p.items ≠ [] ∧ [] ∉ p.items) ↔ ¬ op.IsBare) := by
  intro c hc
  have hmakes := perform_makes h c hc
  refine ⟨?_, ?_⟩
  · cases hop : op.inserted? with
    | none =>
      rw [(hmakes.insertsNothing hop).feeding_eq]
      exact fun pair hpair => absurd hpair List.not_mem_nil
    | some ms =>
      obtain ⟨feed, hfeeding, hlength⟩ := (hmakes.inserts ms hop).feeding_eq
      rw [hfeeding]
      refine List.forall_mem_singleton.2 ⟨feed, rfl, hlength.trans ?_⟩
      exact (List.length_map _).symm
  · rw [← hmakes.isFull]
    constructor
    · exact fun hfull p hp hlist => ⟨(hfull p hp hlist).1, (hfull p hp hlist).2⟩
    · exact fun hfull p hp hlist => ⟨(hfull p hp hlist).some, (hfull p hp hlist).each⟩

open Enrolment in
theorem perform_lists_chess :
    ∃ c, ({} : Generator).perform {} chess = .ok [c] ∧ (feeding (phrases c.tokens)).length = 1 ∧
      (∀ pair ∈ feeding (phrases c.tokens),
        ∃ feed, pair.2 = some feed ∧ feed.items.length = pair.1.items.length) ∧
      ∀ p ∈ phrases c.tokens, p.kind.isList = true → p.items ≠ [] ∧ [] ∉ p.items := by
  have hok : ∃ c, ({} : Generator).perform {} chess = .ok [c] ∧ (feeding (phrases c.tokens)).length = 1 :=
    ⟨_, rfl, by decide⟩
  obtain ⟨c, h, hone⟩ := hok
  obtain ⟨hfed, hlists⟩ := perform_lists h c (List.mem_singleton_self c)
  exact ⟨c, h, hone, hfed, hlists.2 not_false⟩

namespace Enrolment

/-- Tickets, which are nothing but a number made up by the database. -/
def ticket : Entity where
  name := "Ticket"
  tableType := some "TicketTable"
  members := [{ name := "Id", identity := true }]

/-- Drafts, of which the database stores nothing. -/
def draft : Entity := { name := "Draft", members := [{ name := "Text", notMapped := true }] }

end Enrolment

open Enrolment in
/-- Shipped tickets are inserted into no column, and a query for all drafts selects nothing. -/
theorem not_lists_full :
    (∃ c, ({} : Generator).perform {} (.bulkInsert ticket [⟨[]⟩]) = .ok [c] ∧
      ⟨.columns, []⟩ ∈ phrases c.tokens ∧ ⟨.select, []⟩ ∈ phrases c.tokens) ∧
    ∃ c, ({} : Generator).perform {} (.select { root := draft }) = .ok [c] ∧
      ⟨.select, []⟩ ∈ phrases c.tokens := by
  refine ⟨⟨_, rfl, ?_, ?_⟩, ⟨_, rfl, ?_⟩⟩
  · decide
  · decide
  · decide

end Rowgraph
