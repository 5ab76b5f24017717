import Mathlib.Tactic.FinCases
import Rowgraph.Proofs.Command.Phrases

/-!
# The phrases of statements

Which phrases each statement has. A statement is made of parts at whose borders every phrase ends, so that
the phrases of the whole are those of its parts, one after the other (`Tokens.Phrased`).
-/

set_option autoImplicit false

namespace Rowgraph

open Tokens

/-! ## Parts of statements -/

theorem Tokens.marks_spaced {w : Word} (hw : w ≠ .space) (ts : List Token) :
    marks (spaced w ++ ts) = .word w :: marks ts := by
  rw [spaced, List.cons_append, marks_cons_of_ne (fun h => hw (Token.word.inj h)), List.singleton_append,
    marks_space]

/-- Where a phrase may end behind the tokens, does one in front of them end too, and are these the phrases
in the tokens? -/
structure Tokens.Phrased (ts : List Token) (ps : List Phrase) : Prop where
  ends : ∀ us, itemsFrom 0 us = [[]] → itemsFrom 0 (marks ts ++ us) = [[]]
  reads : ∀ us, itemsFrom 0 us = [[]] → phrasesFrom (marks ts ++ us) = ps ++ phrasesFrom us

namespace Tokens.Phrased

variable {ts us : List Token} {ps qs : List Phrase} {w : Word} {kind : PhraseKind}

theorem nil : Phrased [] [] where
  ends _ hus := hus
  reads _ _ := rfl

theorem append (h : Phrased ts ps) (h' : Phrased us qs) : Phrased (ts ++ us) (ps ++ qs) where
  ends := by
    intro rest hrest
    rw [marks_append, List.append_assoc]
    exact h.ends _ (h'.ends _ hrest)
  reads := by
    intro rest hrest
    rw [marks_append, List.append_assoc, h.reads _ (h'.ends _ hrest), h'.reads _ hrest, List.append_assoc]

/-- Spaces make no difference. -/
theorem of_marks (h : Phrased us ps) (heq : marks ts = marks us) : Phrased ts ps where
  ends := by
    rw [heq]
    exact h.ends
  reads := by
    rw [heq]
    exact h.reads

/-- The phrases of a whole statement. -/
theorem phrases_eq (h : Phrased ts ps) : phrases ts = ps := by
  have hreads := h.reads [] rfl
  rwa [List.append_nil, show phrasesFrom [] = [] from rfl, List.append_nil] at hreads

/-- Tokens that begin with the end of a phrase, and with no phrase. -/
theorem silent (hends : (Token.word w).ends = true) (hw : (Token.word w).opens = false)
    (h : Mute ts) : Phrased (.word w :: ts) [] where
  ends := by
    intro us _
    rw [marks_cons_of_ne, List.cons_append]
    · exact itemsFrom_ended hends _
    · rintro hspace
      rw [hspace] at hends
      cases hends
  reads := by
    intro us _
    exact phrasesFrom_append (mute_cons.2 ⟨hw, h⟩) us

/-- A word, the phrase that it begins and those within it. -/
theorem opening (hends : (Token.word w).ends = true) (p : Phrase)
    (h : ∀ us, itemsFrom 0 us = [[]] → opened w (marks ts ++ us) = some p ∧
      phrasesFrom (marks ts ++ us) = ps ++ phrasesFrom us) : Phrased (spaced w ++ ts) (p :: ps) := by
  have hw : w ≠ .space := by
    rintro rfl
    cases hends
  constructor
  · intro us _
    rw [marks_spaced hw, List.cons_append]
    exact itemsFrom_ended hends _
  · intro us hus
    obtain ⟨hopened, hrest⟩ := h us hus
    rw [marks_spaced hw, List.cons_append, phrasesFrom, hopened, hrest]
    rfl

/-- A clause is its word and what belongs to it. -/
theorem clause (h : Phrased (spaced w ++ ts) ps) : Phrased (Tokens.clause w ts) ps :=
  h.of_marks (marks_space _)

/-- A condition behind its word. -/
theorem condition (hends : (Token.word w).ends = true) (hw : ∀ ts, opened w ts = some ⟨kind, listed ts⟩)
    (h : Inner ts) : Phrased (Tokens.clause w ts) [⟨kind, listed (marks ts)⟩] := by
  refine clause (opening hends _ fun us hus => ⟨?_, phrasesFrom_append h.mute us⟩)
  rw [hw, h.listed_append hus]

/-- A list behind its word. -/
theorem list {its : List (List Token)} (hends : (Token.word w).ends = true)
    (hw : ∀ ts, opened w ts = some ⟨kind, listed ts⟩) (h : ∀ item ∈ its, Item item) :
    Phrased (spaced w ++ separated its) [⟨kind, its.map marks⟩] := by
  refine opening hends _ fun us hus => ⟨?_, phrasesFrom_append (mute_separated h) us⟩
  rw [hw, listed_separated h hus]

/-- The phrases in parentheses. -/
theorem reads_parenthesized (h : Phrased ts ps) (us : List Token) :
    phrasesFrom (marks (parenthesized ts) ++ us) = ps ++ phrasesFrom us := by
  have hinner := h.reads (.word .rparen :: us) (itemsFrom_closed us)
  rw [marks_parenthesized, List.cons_append, List.append_assoc, List.singleton_append]
  exact hinner

end Tokens.Phrased

/-! ## Lists of columns and of values -/

namespace Phrase

/-- The column list of an insertion. -/
def columnsOf (ms : List Member) : Phrase := ⟨.columns, ms.map fun m => [.ident m.columnName]⟩

/-- The values of an insertion. -/
def valuesOf (as : List Assignment) : Phrase := ⟨.values, as.map fun a => [a.placeholder]⟩

/-- A condition, as tokens without spaces. -/
def condition (kind : PhraseKind) (ts : List Token) : Phrase := ⟨kind, listed (marks ts)⟩

end Phrase

/-- Does each assignment have a placeholder? -/
def Assignment.Placed (as : List Assignment) : Prop := ∀ a ∈ as, a.placeholder.isPlaceholder = true

/-- Tokens that begin with no space are an item. -/
theorem Tokens.Item.of_cons {t : Token} {ts : List Token} (hspace : t ≠ .word .space)
    (h : Inner (t :: ts)) : Item (t :: ts) where
  toInner := h
  nonempty := by
    rw [marks_cons_of_ne hspace]
    exact List.cons_ne_nil _ _

theorem Tokens.marks_placeholder {t : Token} (h : t.isPlaceholder = true) : marks [t] = [t] := by
  cases t with
  | word w => cases h
  | _ => rfl

theorem Tokens.Item.placeholder {t : Token} (h : t.isPlaceholder = true) : Item [t] where
  toInner := Inner.placeholder h
  nonempty := by
    rw [marks_placeholder h]
    exact List.cons_ne_nil _ _

theorem item_columnTokens (qualifier : Option String) (m : Member) : Item (m.columnTokens qualifier) := by
  rw [Member.columnTokens.eq_def]
  split
  · exact Item.of_cons (by simp) (Inner.atoms rfl)
  · exact Item.of_cons (by simp) (Inner.atoms rfl)

/-- The items of a list of values. -/
theorem map_marks_placeholders {as : List Assignment} (h : Assignment.Placed as) :
    (as.map fun a => [a.placeholder]).map marks = as.map fun a => [a.placeholder] := by
  rw [List.map_map]
  exact List.map_congr_left fun a ha => marks_placeholder (h a ha)

theorem item_placeholders {as : List Assignment} (h : Assignment.Placed as) :
    ∀ item ∈ as.map fun a => [a.placeholder], Item item := by
  intro item hitem
  obtain ⟨a, ha, rfl⟩ := List.mem_map.1 hitem
  exact Item.placeholder (h a ha)

theorem item_columns (qualifier : Option String) (ms : List Member) :
    ∀ item ∈ ms.map (Member.columnTokens qualifier), Item item := by
  intro item hitem
  obtain ⟨m, -, rfl⟩ := List.mem_map.1 hitem
  exact item_columnTokens qualifier m

/-- A list in parentheses, up to the one that closes it. -/
theorem listed_closed {its : List (List Token)} (h : ∀ item ∈ its, Item item) (us : List Token) :
    listed (marks (separated its) ++ .word .rparen :: us) = its.map marks :=
  listed_separated h (itemsFrom_closed us)

/-- The head of an insertion has one phrase, its columns. -/
theorem phrased_insertHead (e : Entity) (ms : List Member) :
    Phrased (e.insertHead ms) [.columnsOf ms] := by
  have hmarks : marks (e.insertHead ms) = .word .insert :: .word .into :: e.reference :: .word .lparen ::
      (marks (Member.columnList none ms) ++ [Token.word .rparen]) := by
    rw [Entity.insertHead, marks_append, marks_append, marks_parenthesized, marks_append,
      show marks [.word .space] = [] from rfl, List.append_nil]
    rfl
  have hcolumns : (ms.map (Member.columnTokens none)).map marks = ms.map fun m => [.ident m.columnName] := by
    rw [List.map_map]
    rfl
  constructor
  · intro us _
    rw [hmarks]
    exact itemsFrom_ended rfl _
  · intro us _
    have hlist := listed_closed (item_columns none ms) us
    have hrest := phrasesFrom_append (mute_separated (item_columns none ms)) (.word .rparen :: us)
    rw [hcolumns] at hlist
    rw [hmarks]
    simp only [List.cons_append, List.append_assoc, List.nil_append]
    simp only [phrasesFrom, opened, Entity.reference, Member.columnList, hlist, hrest, Option.toList,
      List.nil_append]
    rfl

/-- The values of an insertion. -/
theorem phrased_valuesClause {as : List Assignment} (h : Assignment.Placed as) :
    Phrased (Entity.valuesClause as) [.valuesOf as] := by
  have hitems := item_placeholders h
  refine Phrased.opening rfl _ fun us _ => ?_
  rw [marks_parenthesized, List.cons_append, List.append_assoc, List.singleton_append]
  constructor
  · rw [opened, Assignment.placeholders, listed_closed hitems, map_marks_placeholders h]
    rfl
  · exact phrasesFrom_append (mute_separated hitems) (.word .rparen :: us)

/-! ## Select lists -/

section Selected

variable {its : List (List Token)} {us : List Token}

/-- A list does not begin with a word that stands at the head of lists. -/
theorem head?_separated (h : ∀ item ∈ its, Item item) (hends : itemsFrom 0 us = [[]]) {w : Word}
    (hw : w = .distinct ∨ w = .top) : (marks (separated its) ++ us).head? ≠ some (.word w) := by
  intro hhead
  cases hmarks : marks (separated its) with
  | nil =>
    rw [hmarks, List.nil_append] at hhead
    cases us with
    | nil => cases hhead
    | cons t us =>
      cases hhead
      -- the word would belong to the first item, and no phrase ends in front of it
      have hword : itemsFrom 0 (.word w :: us) = (itemsFrom 0 us).modifyHead (.word w :: ·) := by
        rcases hw with rfl | rfl
        · rfl
        · rfl
      rw [hword] at hends
      cases hitems : itemsFrom 0 us with
      | nil => simp [hitems] at hends
      | cons item rest => simp [hitems] at hends
  | cons t ts =>
    rw [hmarks, List.cons_append] at hhead
    cases hhead
    have hmem : Token.word w ∈ marks (separated its) := by
      rw [hmarks]
      exact List.mem_cons_self
    have hsilent := silent_separated h _ (List.mem_filter.1 hmem).1
    rcases hw with rfl | rfl
    · cases hsilent
    · cases hsilent

theorem behindDistinct_eq {ts : List Token} (h : ts.head? ≠ some (.word .distinct)) :
    behindDistinct ts = ts := by
  rw [behindDistinct.eq_def]
  split
  · exact absurd rfl h
  · rfl

theorem behindTop_eq {ts : List Token} (h : ts.head? ≠ some (.word .top)) : behindTop ts = ts := by
  rw [behindTop.eq_def]
  split
  · exact absurd rfl h
  · rfl

/-- A select list behind its word, behind DISTINCT and behind a number of rows. -/
theorem phrased_select (distinct : Bool) (top : List Token)
    (htop : top = [] ∨ ∃ n, top = .word .top :: parenthesized [Token.int n] ++ [Token.word .space])
    (h : ∀ item ∈ its, Item item) :
    Phrased (spaced .select ++ ((if distinct then spaced .distinct else []) ++ top ++ separated its))
      [⟨.select, its.map marks⟩] := by
  refine Phrased.opening rfl _ fun us hus => ?_
  have hrest := phrasesFrom_append (mute_separated h) us
  have hlist := listed_separated h hus
  have htopless := head?_separated h hus (w := .top) (Or.inr rfl)
  have hplain := head?_separated h hus (w := .distinct) (Or.inl rfl)
  rw [marks_append, List.append_assoc]
  constructor
  · rw [opened]
    cases distinct with
    | true =>
      rcases htop with rfl | ⟨n, rfl⟩
      · change some (Phrase.mk .select (listed (behindTop (marks (separated its) ++ us)))) = _
        rw [behindTop_eq htopless, hlist]
      · change some (Phrase.mk .select (listed (marks (separated its) ++ us))) = _
        rw [hlist]
    | false =>
      rcases htop with rfl | ⟨n, rfl⟩
      · change some (Phrase.mk .select
          (listed (behindTop (behindDistinct (marks (separated its) ++ us))))) = _
        rw [behindDistinct_eq hplain, behindTop_eq htopless, hlist]
      · change some (Phrase.mk .select (listed (marks (separated its) ++ us))) = _
        rw [hlist]
  · rw [phrasesFrom_append, hrest]
    · rfl
    · rcases htop with rfl | ⟨n, rfl⟩
      · cases distinct <;> decide
      · cases distinct <;> simp [spaced, parenthesized, Token.opens, Word.openers]

/-- A select list of one token. -/
theorem phrased_selectOne {t : Token} (h : Item [t]) :
    Phrased (spaced .select ++ [t]) [⟨.select, [marks [t]]⟩] :=
  phrased_select false [] (Or.inl rfl) (List.forall_mem_singleton.2 h)

end Selected

/-! ## Writes -/

section Assigned

variable {e : Entity} {ps ps' : Parameters} {as : List Assignment}

/-- What is bound is assigned to its member by a placeholder. -/
theorem assigned_of_bindAll {pairs : List (Member × Value)} (h : ps.bindAll pairs = (as, ps')) :
    Assignment.members as = pairs.map (·.1) ∧ Assignment.Placed as := by
  have hassigns := Parameters.assigns_bindAll pairs ps (.refl _)
  rw [h] at hassigns
  refine ⟨members_of_assigns hassigns, fun a ha => ?_⟩
  obtain ⟨pair, -, -, hvalue⟩ := exists_of_forall₂ hassigns ha
  obtain ⟨name, hname, -⟩ := Option.bind_eq_some_iff.1 hvalue
  rw [Token.isPlaceholder, hname, Option.isSome_some]

theorem assigned_of_ofItem {item : Row} (h : Yields (Assignment.ofItem e item) ps as ps') :
    as ≠ [] ∧ Assignment.members as = e.insertable ∧ Assignment.Placed as := by
  obtain ⟨hne, hbind⟩ := yields_ofItem.1 h
  obtain ⟨hmembers, hplaced⟩ := assigned_of_bindAll hbind
  refine ⟨hne, ?_, hplaced⟩
  rw [hmembers, List.map_map]
  exact List.map_id' _

theorem assigned_of_ofValues {values : Row} (h : Yields (Assignment.ofValues e values) ps as ps') :
    as ≠ [] ∧ List.Forall₂ (fun c m => e.resolve c.1 = .ok m) values.columns (Assignment.members as) ∧
      Assignment.Placed as := by
  obtain ⟨hne, ms, hresolve, hbind⟩ := yields_ofValues.1 h
  obtain ⟨hmembers, hplaced⟩ := assigned_of_bindAll hbind
  refine ⟨hne, ?_, hplaced⟩
  rw [hmembers, List.map_fst_zip]
  · exact hresolve
  · exact Nat.le_of_eq (hresolve.length_eq.symm.trans (List.length_map _).symm)

end Assigned

/-- The assignments of an update. -/
def Phrase.setOf (as : List Assignment) : Phrase :=
  ⟨.set, as.map fun a => [.ident a.member.columnName, .word .eq, a.placeholder]⟩

section Writes

variable {e : Entity} {as : List Assignment} {condition : List Token}

theorem phrased_insertion (h : Assignment.Placed as) : Phrased (e.insertion as)
    [.columnsOf (Assignment.members as), .valuesOf as] :=
  (phrased_insertHead e _).append (phrased_valuesClause h)

/-- A condition on the rows. -/
theorem phrased_where (h : Inner condition) :
    Phrased (clause .whereKw condition) [.condition .filter condition] :=
  Phrased.condition rfl (fun _ => rfl) h

theorem mute_hint (dirtyRead : Bool) : Mute (Join.hint dirtyRead) := by
  rw [Mute]
  cases dirtyRead <;> decide

/-- The tables of a query within another, behind FROM. -/
theorem phrased_from {tables : List Token} (h : Mute tables) :
    Phrased (clause .fromKw [e.reference] ++ tables) [] := by
  have hall : Mute (e.reference :: tables) := mute_cons.2 ⟨rfl, h⟩
  exact (Phrased.silent (w := .fromKw) rfl rfl hall).of_marks rfl

end Writes

/-- The query for the rows that meet a condition, within the test that there is none. -/
def Entity.presenceQuery (e : Entity) (qualifier : List Token) (dirtyRead : Bool)
    (condition : List Token) : List Token :=
  spaced .select ++ [Token.int 1] ++ (clause .fromKw [e.reference] ++ (qualifier ++ Join.hint dirtyRead)) ++
    clause .whereKw condition

/-- The test that there is none. -/
def Entity.absenceTest (e : Entity) (qualifier : List Token) (dirtyRead : Bool)
    (condition : List Token) : List Token :=
  spaced .not ++ spaced .exists ++ parenthesized (e.presenceQuery qualifier dirtyRead condition)

section Writes

variable {e : Entity} {as : List Assignment} {qualifier condition : List Token}

theorem absenceClause_eq (e : Entity) (qualifier : List Token) (dirtyRead : Bool) (condition : List Token) :
    e.absenceClause qualifier dirtyRead condition =
      clause .whereKw (e.absenceTest qualifier dirtyRead condition) := by
  simp only [Entity.absenceClause, Entity.absenceTest, Entity.presenceQuery, List.append_assoc]

theorem phrased_presenceQuery (hqualifier : Inner qualifier) (dirtyRead : Bool) (h : Inner condition) :
    Phrased (e.presenceQuery qualifier dirtyRead condition)
      [⟨.select, [[.int 1]]⟩, .condition .filter condition] := by
  have hnumber : Phrased (spaced .select ++ [Token.int 1]) [⟨.select, [[.int 1]]⟩] :=
    phrased_selectOne (Item.of_cons (by simp) (Inner.atoms rfl))
  have htable : Phrased (clause .fromKw [e.reference] ++ (qualifier ++ Join.hint dirtyRead)) [] :=
    phrased_from (mute_append.2 ⟨hqualifier.mute, mute_hint dirtyRead⟩)
  exact (hnumber.append htable).append (phrased_where h)

/-- In parentheses the whole query is part of one item. -/
theorem keeps_presenceQuery (hqualifier : Inner qualifier) (dirtyRead : Bool) (h : Inner condition) :
    Keeps 1 (e.presenceQuery qualifier dirtyRead condition) := by
  have hnumber : Keeps 1 (spaced .select ++ [Token.int 1]) := Keeps.within (by decide) (by decide)
  have htable : Keeps 1 (clause .fromKw [e.reference]) :=
    Keeps.within (by simp [clause, spaced, Entity.reference]) (by simp [clause, spaced, Entity.reference])
  have hhint : Keeps 1 (Join.hint dirtyRead) := by
    cases dirtyRead with
    | true => exact Keeps.within (by decide) (by decide)
    | false => exact Keeps.nil
  have hword : Keeps 1 ([Token.word .space] ++ spaced .whereKw) := Keeps.within (by decide) (by decide)
  have hone : ∀ {ts}, Inner ts → Keeps 1 ts := fun hts => hts.keeps.mono (Nat.zero_le 1)
  exact (hnumber.append (htable.append ((hone hqualifier).append hhint))).append (hword.append (hone h))

/-- The test that no row meets a condition. The condition is that of a query within it, which selects a
number. -/
theorem phrased_absenceClause (hqualifier : Inner qualifier) (dirtyRead : Bool) (h : Inner condition) :
    Phrased (e.absenceClause qualifier dirtyRead condition)
      [⟨.filter, [marks (e.absenceTest qualifier dirtyRead condition)]⟩, ⟨.select, [[.int 1]]⟩,
        .condition .filter condition] := by
  have hkeeps : Keeps 0 (e.absenceTest qualifier dirtyRead condition) :=
    (Keeps.atoms (by decide)).append (keeps_presenceQuery hqualifier dirtyRead h).parenthesized
  rw [absenceClause_eq]
  refine Phrased.clause (Phrased.opening rfl _ fun us hus => ⟨?_, ?_⟩)
  · have hitems := hkeeps 0 (Nat.le_refl 0) us
    rw [hus, List.modifyHead_cons, List.append_nil] at hitems
    rw [opened, listed, hitems, if_neg]
    rw [Entity.absenceTest, marks_append, marks_parenthesized]
    simp
  · rw [Entity.absenceTest, marks_append, List.append_assoc, phrasesFrom_append (by decide)]
    exact (phrased_presenceQuery hqualifier dirtyRead h).reads_parenthesized us

/-- The assignments of an update and its condition. -/
theorem phrased_updating (hplaced : Assignment.Placed as) (h : Inner condition) :
    Phrased (e.updating as condition) [.setOf as, .condition .filter condition] := by
  have htable : Phrased (spaced .update ++ [e.reference]) [] := by
    refine Phrased.silent (w := .update) rfl rfl fun t ht => ?_
    rcases List.mem_pair.1 ht with rfl | rfl
    · rfl
    · rfl
  have hitem : ∀ item ∈ as.map Entity.setItem, Item item := by
    intro item hitem
    obtain ⟨a, ha, rfl⟩ := List.mem_map.1 hitem
    have hcolumn := (item_columnTokens none a.member).toInner
    exact Item.of_cons (by simp) (hcolumn.between rfl (Inner.placeholder (hplaced a ha)))
  have hset : Phrased (clause .set (separated (as.map Entity.setItem)))
      [⟨.set, (as.map Entity.setItem).map marks⟩] := Phrased.clause (Phrased.list rfl (fun _ => rfl) hitem)
  have hmarks : (as.map Entity.setItem).map marks =
      as.map fun a => [.ident a.member.columnName, .word .eq, a.placeholder] := by
    rw [List.map_map]
    refine List.map_congr_left fun a ha => ?_
    have hplaceholder := marks_placeholder (hplaced a ha)
    rw [Function.comp_apply, Entity.setItem, marks_append, hplaceholder]
    rfl
  rw [hmarks] at hset
  exact (htable.append hset).append (phrased_where h)

/-- What runs only after an update that changed nothing. -/
theorem phrased_otherwise {ts : List Token} {ps : List Phrase} (h : Phrased ts ps) :
    Phrased (Entity.otherwise ts) ps := by
  have hguard : Phrased ([Token.word .semicolon] ++ (.word .space :: spaced .ifKw ++
      ([Token.word .rowCount, .word .space] ++ spaced .eq ++ [Token.int 0, .word .space]))) [] :=
    Phrased.silent rfl rfl (by decide)
  refine (hguard.append h).of_marks ?_
  simp only [Entity.otherwise, clause, List.append_assoc, List.cons_append]

end Writes

/-! ## Bulk writes -/

/-- A column of the table and the shipped one, equated. -/
def Member.shippedPair (qualifier : String) (m : Member) : List Token :=
  [.alias qualifier, .word .dot, .ident m.columnName, .word .eq, .alias shippedAlias, .word .dot,
    .ident m.columnName]

/-- The columns that feed an insertion. -/
def Phrase.selectedOf (qualifier : Option String) (ms : List Member) : Phrase :=
  ⟨.select, ms.map (Member.columnTokens qualifier)⟩

section Bulk

variable {e : Entity} {rows : TableParameter} {matched : List Member}

theorem marks_columnTokens (qualifier : Option String) (m : Member) :
    marks (m.columnTokens qualifier) = m.columnTokens qualifier := by
  cases qualifier <;> rfl

theorem item_equalsShipped (qualifier : String) (m : Member) : Item (m.equalsShipped qualifier) :=
  Item.of_cons (by simp) (Inner.atoms rfl)

theorem inner_allEqualShipped (qualifier : String) (ms : List Member) :
    Inner (Member.allEqualShipped qualifier ms) := by
  refine Inner.joined rfl fun test htest => ?_
  obtain ⟨m, -, rfl⟩ := List.mem_map.1 htest
  exact (item_equalsShipped qualifier m).toInner

theorem phrased_columnList (qualifier : Option String) (ms : List Member) :
    Phrased (spaced .select ++ Member.columnList qualifier ms) [.selectedOf qualifier ms] := by
  have hlist := phrased_select false [] (Or.inl rfl) (item_columns qualifier ms)
  have hmarks : (ms.map (Member.columnTokens qualifier)).map marks =
      ms.map (Member.columnTokens qualifier) := by
    rw [List.map_map]
    exact List.map_congr_left fun m _ => marks_columnTokens qualifier m
  rwa [hmarks] at hlist

/-- The columns of shipped rows that are inserted whatever the table holds. -/
theorem phrased_bulkInsert (e : Entity) (rows : TableParameter) :
    Phrased (e.insertHead e.insertable ++ spaced .select ++ Member.columnList none e.insertable ++
      clause .fromKw [rows.placeholder]) [.columnsOf e.insertable, .selectedOf none e.insertable] := by
  have hmute : Mute [rows.placeholder] := List.forall_mem_singleton.2 rfl
  have hsource : Phrased (clause .fromKw [rows.placeholder]) [] :=
    (Phrased.silent (w := .fromKw) rfl rfl hmute).of_marks rfl
  have hlist := phrased_columnList none e.insertable
  refine (((phrased_insertHead e e.insertable).append hlist).append hsource).of_marks ?_
  simp only [List.append_assoc]

/-- The assignments of a bulk update and the condition of its join. -/
theorem phrased_bulkUpdating {ts : List Token} (h : e.bulkUpdating rows matched = .ok ts) :
    e.bulkAssigned matched ≠ [] ∧ Phrased ts
      [⟨.set, (e.bulkAssigned matched).map (Member.shippedPair e.bulkAlias)⟩,
        .condition .on (Member.allEqualShipped e.bulkAlias matched)] := by
  rw [Entity.bulkUpdating] at h
  split at h
  · cases h
  · next hassigned =>
    cases h
    rw [List.isEmpty_iff] at hassigned
    refine ⟨hassigned, ?_⟩
    have htable : Phrased (spaced .update ++ [Token.alias e.bulkAlias]) [] := by
      refine Phrased.silent (w := .update) rfl rfl fun t ht => ?_
      rcases List.mem_pair.1 ht with rfl | rfl
      · rfl
      · rfl
    have hitem : ∀ item ∈ (e.bulkAssigned matched).map (Member.equalsShipped e.bulkAlias), Item item := by
      intro item hitem
      obtain ⟨m, -, rfl⟩ := List.mem_map.1 hitem
      exact item_equalsShipped e.bulkAlias m
    have hset : Phrased (clause .set (separated ((e.bulkAssigned matched).map
        (Member.equalsShipped e.bulkAlias))))
        [⟨.set, ((e.bulkAssigned matched).map (Member.equalsShipped e.bulkAlias)).map marks⟩] :=
      Phrased.clause (Phrased.list rfl (fun _ => rfl) hitem)
    rw [List.map_map] at hset
    have hjoined : Phrased (clause .fromKw [e.reference] ++
        ([Token.word .space, .alias e.bulkAlias, .word .space] ++ spaced .inner ++ spaced .join ++
          rows.source)) [] := by
      refine phrased_from fun t ht => ?_
      fin_cases ht <;> rfl
    have hon : Phrased (clause .on (Member.allEqualShipped e.bulkAlias matched))
        [.condition .on (Member.allEqualShipped e.bulkAlias matched)] :=
      Phrased.condition rfl (fun _ => rfl) (inner_allEqualShipped e.bulkAlias matched)
    refine (((htable.append hset).append hjoined).append hon).of_marks ?_
    simp only [List.append_assoc, clause, List.cons_append, List.nil_append]

/-- Between two statements there is no phrase. -/
theorem phrased_semicolon : Phrased [.word .semicolon, .word .space] [] :=
  Phrased.silent rfl rfl (by decide)

/-- The columns of the rows that match none, and the test that they do. -/
theorem phrased_bulkInserting (e : Entity) (rows : TableParameter) (matched : List Member)
    (dirtyRead : Bool) : Phrased (e.bulkInserting rows matched dirtyRead)
      [.columnsOf e.insertable, .selectedOf (some shippedAlias) e.insertable,
        ⟨.filter, [marks (e.absenceTest [.word .space, .alias e.bulkAlias] dirtyRead
          (Member.allEqualShipped e.bulkAlias matched))]⟩,
        ⟨.select, [[.int 1]]⟩, .condition .filter (Member.allEqualShipped e.bulkAlias matched)] := by
  have hqualifier : Inner [.word .space, .alias e.bulkAlias] := Inner.atoms rfl
  have habsence := phrased_absenceClause (e := e) hqualifier dirtyRead
    (inner_allEqualShipped e.bulkAlias matched)
  have hrows : Mute rows.source := by
    intro t ht
    fin_cases ht <;> rfl
  have hsource : Phrased (clause .fromKw rows.source) [] :=
    (Phrased.silent (w := .fromKw) rfl rfl hrows).of_marks rfl
  have hlist := phrased_columnList (some shippedAlias) e.insertable
  refine ((((phrased_insertHead e e.insertable).append hlist).append hsource).append habsence).of_marks ?_
  simp only [Entity.bulkInserting, List.append_assoc]

end Bulk

end Rowgraph
