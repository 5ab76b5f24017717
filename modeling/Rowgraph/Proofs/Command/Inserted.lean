import Rowgraph.Proofs.Command.QueryLayout

/-!
# The columns of insertions

A statement holds one insertion (`Command.Inserts`) or none (`Command.InsertsNothing`), and which it is
follows from the operation (`Generator.perform_insertion`). The columns of an insertion leave out those that
the database generates, unless the caller has named the columns: a template, and the values of an upsert,
are written as they are (`perform_identity`).
-/

set_option autoImplicit false

namespace Rowgraph

open Tokens

/-! ## Statements with an insertion -/

/-- May a phrase of this kind feed an insertion? -/
def PhraseKind.feeds : PhraseKind → Bool
  | .values => true
  | .select => true
  | _ => false

/-- Does the statement hold one insertion, of these members, that is fed one item for each column? -/
inductive Command.Inserts (c : Command) (ms : List Member) : Prop
  | intro (before middle rest : List Phrase) (feed : Phrase)
      (phrases : Tokens.phrases c.tokens = before ++ .columnsOf ms :: (middle ++ feed :: rest))
      (before : ∀ p ∈ before, p.IsSettled) (middle : ∀ p ∈ middle, p.IsSettled ∧ p.kind.feeds = false)
      (rest : ∀ p ∈ rest, p.IsSettled) (feeds : feed.kind.feeds = true)
      (length : feed.items.length = ms.length) (each : [] ∉ feed.items)

/-- Does the statement hold no insertion? -/
def Command.InsertsNothing (c : Command) : Prop := ∀ p ∈ Tokens.phrases c.tokens, p.kind ≠ .columns

/-- Are all lists of the statement full? -/
def Command.IsFull (c : Command) : Prop :=
  ∀ p ∈ Tokens.phrases c.tokens, p.kind.isList = true → p.IsFull

/-- Does the statement hold no insertion, and are all its lists full? -/
def Command.IsSettled (c : Command) : Prop := ∀ p ∈ Tokens.phrases c.tokens, p.IsSettled

/-- Is it the column list of an insertion? -/
def Phrase.isColumns (p : Phrase) : Bool := p.kind == .columns

/-- The column lists of the insertions in a statement, if they can be read. -/
def Command.columnLists (c : Command) : List (Option (List String)) :=
  ((Tokens.phrases c.tokens).filter Phrase.isColumns).map fun p => p.items.mapM Tokens.column?

theorem nil_not_mem_columns (qualifier : Option String) (ms : List Member) :
    [] ∉ ms.map (Member.columnTokens qualifier) := by
  intro hmem
  obtain ⟨m, -, hnil⟩ := List.mem_map.1 hmem
  have hitem := (item_columnTokens qualifier m).nonempty
  rw [hnil] at hitem
  exact hitem rfl

section Reading

variable {c : Command} {ms : List Member}

theorem filter_isColumns {ps : List Phrase} (h : ∀ p ∈ ps, p.kind ≠ .columns) :
    ps.filter Phrase.isColumns = [] := by
  rw [List.filter_eq_nil_iff]
  intro p hp hkind
  exact h p hp (eq_of_beq hkind)

theorem Command.InsertsNothing.columnLists_eq (h : c.InsertsNothing) : c.columnLists = [] := by
  rw [Command.columnLists, filter_isColumns h]
  rfl

theorem Command.Inserts.columnLists_eq (h : c.Inserts ms) :
    c.columnLists = [some (ms.map Member.columnName)] := by
  obtain ⟨before, middle, rest, feed, hphrases, hbefore, hmiddle, hrest, hfeeds, -, -⟩ := h
  have hcolumns : (Phrase.columnsOf ms).isColumns = true := rfl
  have hfeed : ¬ feed.isColumns = true := by
    intro hkind
    rw [eq_of_beq hkind] at hfeeds
    cases hfeeds
  have hread : (Phrase.columnsOf ms).items.mapM column? = some (ms.map Member.columnName) := by
    rw [Phrase.columnsOf, List.mapM_map]
    exact mapM_eq_some fun m _ => rfl
  rw [Command.columnLists, hphrases, List.filter_append, filter_isColumns fun p hp => (hbefore p hp).other,
    List.nil_append, List.filter_cons_of_pos hcolumns, List.filter_append,
    filter_isColumns fun p hp => (hmiddle p hp).1.other, List.nil_append, List.filter_cons_of_neg hfeed,
    filter_isColumns fun p hp => (hrest p hp).other, List.map_cons, hread]
  rfl

/-- The lists of a statement with an insertion are full unless there is no column to insert. -/
theorem Command.Inserts.isFull_iff (h : c.Inserts ms) : c.IsFull ↔ ms ≠ [] := by
  obtain ⟨before, middle, rest, feed, hphrases, hbefore, hmiddle, hrest, hfeeds, hlength, heach⟩ := h
  rw [Command.IsFull, hphrases]
  constructor
  · rintro hfull rfl
    exact (hfull (.columnsOf []) (by simp) rfl).some rfl
  · intro hne p hp hlist
    rcases List.mem_append.1 hp with hp | hp
    · exact (hbefore p hp).full hlist
    · rcases List.mem_cons.1 hp with rfl | hp
      · exact ⟨fun hnil => hne (List.map_eq_nil_iff.1 hnil), nil_not_mem_columns none ms⟩
      · rcases List.mem_append.1 hp with hp | hp
        · exact (hmiddle p hp).1.full hlist
        · rcases List.mem_cons.1 hp with rfl | hp
          · refine ⟨fun hnil => hne ?_, heach⟩
            rw [hnil] at hlength
            exact List.length_eq_zero_iff.1 hlength.symm
          · exact (hrest p hp).full hlist

theorem Command.IsSettled.insertsNothing (h : c.IsSettled) : c.InsertsNothing := fun p hp => (h p hp).other

theorem Command.IsSettled.isFull (h : c.IsSettled) : c.IsFull := fun p hp => (h p hp).full

end Reading

/-! ## What feeds an insertion -/

section Feeds

variable {c : Command} {as : List Assignment}

theorem nil_not_mem_placeholders (as : List Assignment) : [] ∉ as.map fun a => [a.placeholder] := by
  intro hmem
  obtain ⟨a, -, hnil⟩ := List.mem_map.1 hmem
  cases hnil

/-- An insertion of assigned values, or of what is selected from them. -/
theorem inserts_assigned {kind : PhraseKind} (before middle rest : List Phrase) (h : Phrased c.tokens
      (before ++ .columnsOf (Assignment.members as) :: (middle ++
        ⟨kind, as.map fun a => [a.placeholder]⟩ :: rest)))
    (hkind : kind.feeds = true) (hbefore : ∀ p ∈ before, p.IsSettled)
    (hmiddle : ∀ p ∈ middle, p.IsSettled ∧ p.kind.feeds = false) (hrest : ∀ p ∈ rest, p.IsSettled) :
    c.Inserts (Assignment.members as) :=
  .intro before middle rest _ h.phrases_eq hbefore hmiddle hrest hkind
    ((List.length_map _).trans (List.length_map _).symm) (nil_not_mem_placeholders as)

/-- An insertion of shipped columns. -/
theorem inserts_shipped {ms : List Member} {qualifier : Option String} (before rest : List Phrase)
    (h : Phrased c.tokens (before ++ .columnsOf ms :: .selectedOf qualifier ms :: rest))
    (hbefore : ∀ p ∈ before, p.IsSettled) (hrest : ∀ p ∈ rest, p.IsSettled) : c.Inserts ms :=
  .intro before [] rest _ h.phrases_eq hbefore (List.forall_mem_nil _) hrest rfl (List.length_map _)
    (nil_not_mem_columns qualifier ms)

theorem isSettled_setOf (h : as ≠ []) : (Phrase.setOf as).IsSettled where
  other := by simp [Phrase.setOf]
  full _ := {
    some := fun hnil => h (List.map_eq_nil_iff.1 hnil)
    each := by
      intro hmem
      obtain ⟨a, -, hnil⟩ := List.mem_map.1 hmem
      cases hnil }

/-- The phrases of the test that no row meets a condition. -/
theorem isSettled_absence {outer : List (List Token)} {condition : List Token} :
    ∀ p ∈ [⟨.filter, outer⟩, ⟨.select, [[.int 1]]⟩, Phrase.condition .filter condition], p.IsSettled := by
  have hone : (Phrase.mk .select [[Token.int 1]]).IsSettled :=
    ⟨by simp, fun _ => ⟨by decide, by decide⟩⟩
  exact List.forall_mem_cons.2 ⟨isSettled_condition rfl, List.forall_mem_cons.2 ⟨hone,
    List.forall_mem_cons.2 ⟨isSettled_condition rfl, List.forall_mem_nil _⟩⟩⟩

end Feeds

/-- The members that a row names. -/
def Entity.named (e : Entity) (row : Row) : List Member :=
  row.columns.filterMap fun cell => (e.resolve cell.1).toOption

theorem named_eq_members {e : Entity} {cells : List (String × Value)} {ms : List Member}
    (h : List.Forall₂ (fun cell m => e.resolve cell.1 = .ok m) cells ms) : e.named ⟨cells⟩ = ms := by
  induction h with
  | nil => rfl
  | cons hm _ ih =>
    have hmember := toOption_eq_some.2 hm
    simp only [Entity.named, List.filterMap_cons, hmember] at ih ⊢
    rw [ih]

/-! ## Which insertion a statement holds -/

section Statements

variable {g : Generator} {e : Entity} {c : Command}

theorem insert_inserts {item : Row} (h : g.insert e item = .ok c) :
    e.insertable ≠ [] ∧ c.Inserts e.insertable := by
  obtain ⟨as, ps, has, rfl⟩ := insert_eq_ok.1 h
  obtain ⟨hne, hmembers, hplaced⟩ := assigned_of_ofItem has
  rw [← hmembers]
  refine ⟨fun hnil => hne (List.map_eq_nil_iff.1 hnil), ?_⟩
  exact inserts_assigned [] [] [] (phrased_insertion hplaced) rfl
    (List.forall_mem_nil _) (List.forall_mem_nil _) (List.forall_mem_nil _)

/-- The values follow the columns that are given back. -/
theorem insertOutput_inserts {item : Row} (h : g.insertOutput e item = .ok c) :
    e.insertable ≠ [] ∧ c.Inserts e.insertable := by
  obtain ⟨as, ps, has, rfl⟩ := insertOutput_eq_ok.1 h
  obtain ⟨hne, hmembers, hplaced⟩ := assigned_of_ofItem has
  have hinsertable : e.insertable ≠ [] := by
    rw [← hmembers]
    exact fun hnil => hne (List.map_eq_nil_iff.1 hnil)
  have hmapped : e.mapped ≠ [] := by
    intro hnil
    rw [Entity.insertable, hnil] at hinsertable
    exact hinsertable rfl
  have hall := ((phrased_insertHead e (Assignment.members as)).append (phrased_output e)).append
    (phrased_valuesClause hplaced)
  refine ⟨hinsertable, ?_⟩
  rw [← hmembers]
  refine inserts_assigned [] [_] [] (hall.of_marks ?_) rfl (List.forall_mem_nil _)
    (List.forall_mem_singleton.2 ⟨isSettled_output hmapped, rfl⟩) (List.forall_mem_nil _)
  simp only [marks_append, List.append_assoc]
  rfl

/-- The values are selected, so that the test can follow. -/
theorem insertIfAbsent_inserts {item : Row} {absentWhen : Expr}
    (h : g.insertIfAbsent e item absentWhen = .ok c) : e.insertable ≠ [] ∧ c.Inserts e.insertable := by
  obtain ⟨as, condition, ps₁, ps, has, hcondition, rfl⟩ := insertIfAbsent_eq_ok.1 h
  obtain ⟨hne, hmembers, hplaced⟩ := assigned_of_ofItem has
  have hinner := Condition.inner_ofExpr hcondition
  have hqualifier : Inner [] := Inner.atoms rfl
  have habsence := phrased_absenceClause (e := e) hqualifier g.dirtyRead hinner
  have hselect := phrased_select false [] (Or.inl rfl) (item_placeholders hplaced)
  rw [map_marks_placeholders hplaced] at hselect
  rw [← hmembers]
  refine ⟨fun hnil => hne (List.map_eq_nil_iff.1 hnil), ?_⟩
  have hall := ((phrased_insertHead e (Assignment.members as)).append hselect).append habsence
  refine inserts_assigned [] [] _ (hall.of_marks ?_) rfl (List.forall_mem_nil _) (List.forall_mem_nil _)
    isSettled_absence
  simp only [List.append_assoc]
  rfl

theorem insertTemplate_inserts {template : Row} {caches : Caches}
    (h : (g.insertTemplate e template caches).1 = .ok c) :
    e.named template ≠ [] ∧ c.Inserts (e.named template) := by
  obtain ⟨as, ps, has, rfl⟩ := insertTemplate_eq_ok h
  obtain ⟨hne, hresolve, hplaced⟩ := assigned_of_ofValues has
  rw [show e.named template = _ from named_eq_members hresolve]
  refine ⟨fun hnil => hne (List.map_eq_nil_iff.1 hnil), ?_⟩
  exact inserts_assigned [] [] [] (phrased_insertion hplaced) rfl
    (List.forall_mem_nil _) (List.forall_mem_nil _) (List.forall_mem_nil _)

theorem update_isSettled {values : Row} {filter : Expr} (h : g.update e values filter = .ok c) :
    c.IsSettled := by
  obtain ⟨as, condition, ps₁, ps, has, hcondition, rfl⟩ := update_eq_ok.1 h
  obtain ⟨hne, -, hplaced⟩ := assigned_of_ofValues has
  have hupdating := phrased_updating (e := e) hplaced (Condition.inner_ofExpr hcondition)
  rw [Command.IsSettled, hupdating.phrases_eq]
  exact List.forall_mem_cons.2 ⟨isSettled_setOf hne,
    List.forall_mem_singleton.2 (isSettled_condition rfl)⟩

/-- The insertion follows the update. -/
theorem upsert_inserts {values : Row} {filter : Expr} (h : g.upsert e values filter = .ok c) :
    e.named values ≠ [] ∧ c.Inserts (e.named values) := by
  obtain ⟨as, condition, ps₁, ps, has, hcondition, rfl⟩ := upsert_eq_ok.1 h
  obtain ⟨hne, hresolve, hplaced⟩ := assigned_of_ofValues has
  have hupdating := phrased_updating (e := e) hplaced (Condition.inner_ofExpr hcondition)
  have hall := hupdating.append (phrased_otherwise (phrased_insertion (e := e) hplaced))
  have hbefore : ∀ p ∈ [Phrase.setOf as, .condition .filter condition.tokens], p.IsSettled :=
    List.forall_mem_cons.2 ⟨isSettled_setOf hne, List.forall_mem_singleton.2 (isSettled_condition rfl)⟩
  rw [show e.named values = _ from named_eq_members hresolve]
  refine ⟨fun hnil => hne (List.map_eq_nil_iff.1 hnil), ?_⟩
  exact inserts_assigned _ [] [] hall rfl hbefore (List.forall_mem_nil _) (List.forall_mem_nil _)

theorem delete_isSettled {filter : Expr} (h : g.delete e filter = .ok c) : c.IsSettled := by
  obtain ⟨ps, hps, hsettled⟩ := settled_delete h
  rwa [Command.IsSettled, hps.phrases_eq]

theorem deleteJoined_isSettled {joins : List Join} {filter : Expr}
    (h : g.deleteJoined e joins filter = .ok c) : c.IsSettled := by
  obtain ⟨ps, hps, hsettled⟩ := settled_deleteJoined h
  rwa [Command.IsSettled, hps.phrases_eq]

theorem bulkInsert_inserts {items : List Row} (h : g.bulkInsert e items = .ok c) :
    c.Inserts e.insertable := by
  obtain ⟨rows, -, rfl⟩ := bulkInsert_eq_ok.1 h
  exact inserts_shipped [] [] (phrased_bulkInsert e rows) (List.forall_mem_nil _) (List.forall_mem_nil _)

/-- The phrases of a bulk update. -/
theorem isSettled_bulkUpdating {matched : List Member} (h : e.bulkAssigned matched ≠ []) :
    ∀ p ∈ [⟨.set, (e.bulkAssigned matched).map (Member.shippedPair e.bulkAlias)⟩,
      Phrase.condition .on (Member.allEqualShipped e.bulkAlias matched)], p.IsSettled := by
  have hset : (Phrase.mk .set ((e.bulkAssigned matched).map (Member.shippedPair e.bulkAlias))).IsSettled := by
    refine ⟨by simp, fun _ => ⟨fun hnil => h (List.map_eq_nil_iff.1 hnil), fun hmem => ?_⟩⟩
    obtain ⟨m, -, hnil⟩ := List.mem_map.1 hmem
    cases hnil
  exact List.forall_mem_cons.2 ⟨hset, List.forall_mem_singleton.2 (isSettled_condition rfl)⟩

theorem bulkUpdate_isSettled {items : List Row} {template : Expr}
    (h : g.bulkUpdate e items template = .ok c) : c.IsSettled := by
  obtain ⟨matched, rows, ts, -, -, hts, rfl⟩ := bulkUpdate_eq_ok.1 h
  obtain ⟨hassigned, hphrased⟩ := phrased_bulkUpdating hts
  rw [Command.IsSettled, hphrased.phrases_eq]
  exact isSettled_bulkUpdating hassigned

/-- What a bulk update sets is inserted too, so that the columns of the insertion are not empty either. -/
theorem bulkUpsert_inserts {items : List Row} {template : Expr}
    (h : g.bulkUpsert e items template = .ok c) : e.insertable ≠ [] ∧ c.Inserts e.insertable := by
  obtain ⟨matched, rows, ts, -, -, hts, rfl⟩ := bulkUpsert_eq_ok.1 h
  obtain ⟨hassigned, hphrased⟩ := phrased_bulkUpdating hts
  have hinserting := phrased_bulkInserting e rows matched g.dirtyRead
  refine ⟨fun hnil => hassigned ?_, ?_⟩
  · rw [Entity.bulkAssigned, hnil]
    rfl
  · exact inserts_shipped _ _ ((hphrased.append phrased_semicolon).append hinserting)
      (isSettled_bulkUpdating hassigned) isSettled_absence

end Statements

/-! ## Operations -/

namespace Operation

/-- The entity that an operation is about. -/
def entity : Operation → Entity
  | .select q => q.root
  | .insert e _ => e
  | .insertOutput e _ => e
  | .insertMany e _ => e
  | .insertIfAbsent e _ _ => e
  | .insertTemplate e _ => e
  | .update e _ _ => e
  | .upsert e _ _ => e
  | .delete e _ => e
  | .deleteJoined e _ _ => e
  | .bulkInsert e _ => e
  | .bulkUpdate e _ _ => e
  | .bulkUpsert e _ _ => e

/-- The members that an operation inserts, if it inserts anything. -/
def inserted? : Operation → Option (List Member)
  | .insert e _ => some e.insertable
  | .insertOutput e _ => some e.insertable
  | .insertMany e _ => some e.insertable
  | .insertIfAbsent e _ _ => some e.insertable
  | .insertTemplate e template => some (e.named template)
  | .upsert e values _ => some (e.named values)
  | .bulkInsert e _ => some e.insertable
  | .bulkUpsert e _ _ => some e.insertable
  | _ => none

/-- The row of an operation that writes the values the caller names. -/
def row? : Operation → Option Row
  | .insertTemplate _ template => some template
  | .upsert _ values _ => some values
  | _ => none

/-- Does the caller give a value to a column that the database generates, for an insertion? -/
def GivesIdentity (op : Operation) : Prop :=
  ∃ row ∈ op.row?, ∃ cell ∈ row.columns, ∃ m, op.entity.resolve cell.1 = .ok m ∧ m.identity = true

/-- Is a list of this operation empty? The insertion of shipped rows may have no column, and the query for
all members of one table no member. -/
def IsBare : Operation → Prop
  | .select q => q.groupBy = [] ∧ q.picks = none ∧ q.joins = [] ∧ q.root.mapped = []
  | .bulkInsert e _ => e.insertable = []
  | _ => False

end Operation

/-- Is this the insertion of the operation, if it has one, and are all lists full unless the operation is
bare? -/
structure Operation.Makes (op : Operation) (c : Command) : Prop where
  inserts : ∀ ms, op.inserted? = some ms → c.Inserts ms
  insertsNothing : op.inserted? = none → c.InsertsNothing
  isFull : c.IsFull ↔ ¬ op.IsBare

section Operations

variable {g : Generator} {caches : Caches} {op : Operation} {c : Command} {ms : List Member}

theorem makes_inserts (hop : op.inserted? = some ms) (hbare : op.IsBare ↔ ms = []) (h : c.Inserts ms) :
    op.Makes c where
  inserts := by
    intro ms' hms
    cases hop.symm.trans hms
    exact h
  insertsNothing := by
    intro hnone
    rw [hop] at hnone
    cases hnone
  isFull := by rw [h.isFull_iff, hbare]

theorem makes_settled (hop : op.inserted? = none) (hbare : ¬ op.IsBare) (h : c.IsSettled) : op.Makes c where
  inserts := by
    intro ms hms
    rw [hop] at hms
    cases hms
  insertsNothing := fun _ => h.insertsNothing
  isFull := ⟨fun _ => hbare, fun _ => h.isFull⟩

/-- The statement of a query inserts nothing; only its columns may be none. -/
theorem select_makes {q : Query} (h : g.select q = .ok c) : (Operation.select q).Makes c := by
  rcases select_eq_ok.1 h with ⟨list, hmakes⟩ | ⟨grouped, projection, hmakes⟩
  · obtain ⟨hitems, rest, hsettled, hphrases⟩ := hmakes.phrases
    have hempty := SelectList.columns_eq_nil_iff hmakes.columns
    have hbare : (Operation.select q).IsBare ↔ list.columns = [] := by
      rw [hempty]
      exact and_iff_right hmakes.ungrouped
    refine ⟨fun ms hms => ?_, fun _ => ?_, ?_⟩
    · cases hms
    · rw [Command.InsertsNothing, hphrases]
      exact List.forall_mem_cons.2 ⟨by simp, fun p hp => (hsettled p hp).other⟩
    · rw [Command.IsFull, hphrases, hbare]
      constructor
      · intro hfull hnil
        have hselect := (hfull _ List.mem_cons_self rfl).some
        rw [hnil] at hselect
        exact hselect rfl
      · intro hne
        refine List.forall_mem_cons.2 ⟨fun _ => isFull_of_items ?_ hitems, fun p hp => (hsettled p hp).full⟩
        exact fun hnil => hne (List.map_eq_nil_iff.1 hnil)
  · exact makes_settled rfl (fun hbare => hmakes.isGrouped hbare.1) hmakes.settled

theorem perform_makes {cs : List Command} (h : g.perform caches op = .ok cs) : ∀ c ∈ cs, op.Makes c := by
  -- an insertion is not bare that has a column
  have hinserts : ∀ {c : Command} {ms : List Member}, ms ≠ [] ∧ c.Inserts ms → op.inserted? = some ms →
      ¬ op.IsBare → op.Makes c := fun hmakes hop hbare =>
    makes_inserts hop ⟨fun h => absurd h hbare, fun h => absurd h hmakes.1⟩ hmakes.2
  cases op with
  | select q => exact forall_of_single select_makes h
  | insert e item => exact forall_of_single (fun hc => hinserts (insert_inserts hc) rfl not_false) h
  | insertOutput e item => exact forall_of_single (fun hc => hinserts (insertOutput_inserts hc) rfl not_false) h
  | insertMany e items =>
    intro c hc
    obtain ⟨item, -, hitem⟩ := exists_of_mem_mapM h hc
    exact hinserts (insert_inserts hitem) rfl not_false
  | insertIfAbsent e item absentWhen =>
    exact forall_of_single (fun hc => hinserts (insertIfAbsent_inserts hc) rfl not_false) h
  | insertTemplate e template =>
    exact forall_of_single (fun hc => hinserts (insertTemplate_inserts hc) rfl not_false) h
  | update e values filter => exact forall_of_single (fun hc => makes_settled rfl not_false (update_isSettled hc)) h
  | upsert e values filter => exact forall_of_single (fun hc => hinserts (upsert_inserts hc) rfl not_false) h
  | delete e filter => exact forall_of_single (fun hc => makes_settled rfl not_false (delete_isSettled hc)) h
  | deleteJoined e joins filter =>
    exact forall_of_single (fun hc => makes_settled rfl not_false (deleteJoined_isSettled hc)) h
  | bulkInsert e items => exact forall_of_single (fun hc => makes_inserts rfl Iff.rfl (bulkInsert_inserts hc)) h
  | bulkUpdate e items template =>
    exact forall_of_single (fun hc => makes_settled rfl not_false (bulkUpdate_isSettled hc)) h
  | bulkUpsert e items template => exact forall_of_single (fun hc => hinserts (bulkUpsert_inserts hc) rfl not_false) h

end Operations

/-! ## Generated columns -/

theorem Entity.mem_mapped_of_resolve {e : Entity} {name : String} {m : Member} (h : e.resolve name = .ok m) :
    m ∈ e.mapped := by
  rw [resolve] at h
  split at h
  · cases h
  · next found hfound =>
    split at h
    · cases h
    · next hmapped =>
      cases h
      exact List.mem_filter.2 ⟨List.mem_of_find?_eq_some hfound, by simpa using hmapped⟩

theorem Entity.mem_named {e : Entity} {row : Row} {m : Member} :
    m ∈ e.named row ↔ ∃ cell ∈ row.columns, e.resolve cell.1 = .ok m := by
  rw [named, List.mem_filterMap]
  exact exists_congr fun cell => and_congr_right fun _ => toOption_eq_some

theorem Entity.mem_insertable {e : Entity} {m : Member} :
    m ∈ e.insertable ↔ m ∈ e.mapped ∧ m.identity = false := by
  rw [insertable, List.mem_filter, Bool.not_eq_true']

namespace Operation

variable {op : Operation} {ms : List Member}

/-- What is inserted is what the database does not generate, or what the caller names. -/
theorem inserted?_cases (h : op.inserted? = some ms) :
    (op.row? = none ∧ ms = op.entity.insertable) ∨ ∃ row, op.row? = some row ∧ ms = op.entity.named row := by
  cases op with
  | insertTemplate e template =>
    cases h
    exact Or.inr ⟨template, rfl, rfl⟩
  | upsert e values filter =>
    cases h
    exact Or.inr ⟨values, rfl, rfl⟩
  | insert e item => exact Or.inl ⟨rfl, (Option.some.inj h).symm⟩
  | insertOutput e item => exact Or.inl ⟨rfl, (Option.some.inj h).symm⟩
  | insertMany e items => exact Or.inl ⟨rfl, (Option.some.inj h).symm⟩
  | insertIfAbsent e item absentWhen => exact Or.inl ⟨rfl, (Option.some.inj h).symm⟩
  | bulkInsert e items => exact Or.inl ⟨rfl, (Option.some.inj h).symm⟩
  | bulkUpsert e items template => exact Or.inl ⟨rfl, (Option.some.inj h).symm⟩
  | _ => cases h

theorem mem_mapped_of_inserted (h : op.inserted? = some ms) {m : Member} (hm : m ∈ ms) :
    m ∈ op.entity.mapped := by
  rcases inserted?_cases h with ⟨-, rfl⟩ | ⟨row, -, rfl⟩
  · exact (Entity.mem_insertable.1 hm).1
  · obtain ⟨cell, -, hresolve⟩ := Entity.mem_named.1 hm
    exact Entity.mem_mapped_of_resolve hresolve

theorem inserts_identity_iff :
    (∃ ms ∈ op.inserted?, ∃ m ∈ ms, m.identity = true) ↔ op.GivesIdentity := by
  constructor
  · rintro ⟨ms, hms, m, hm, hidentity⟩
    rcases inserted?_cases hms with ⟨-, rfl⟩ | ⟨row, hrow, rfl⟩
    · rw [(Entity.mem_insertable.1 hm).2] at hidentity
      cases hidentity
    · obtain ⟨cell, hcell, hresolve⟩ := Entity.mem_named.1 hm
      exact ⟨row, hrow, cell, hcell, m, hresolve, hidentity⟩
  · rintro ⟨row, hrow, cell, hcell, m, hresolve, hidentity⟩
    cases op with
    | insertTemplate e template =>
      cases hrow
      exact ⟨_, rfl, m, Entity.mem_named.2 ⟨cell, hcell, hresolve⟩, hidentity⟩
    | upsert e values filter =>
      cases hrow
      exact ⟨_, rfl, m, Entity.mem_named.2 ⟨cell, hcell, hresolve⟩, hidentity⟩
    | _ => cases hrow

end Operation

/-- The columns that can be read in a statement are those of the members that its operation inserts. Columns
being distinct, one that the database generates is among them just if the caller of a templated insertion or
of an upsert has given it a value. -/
theorem perform_identity {g : Generator} {caches : Caches} {op : Operation} {cs : List Command}
    (h : g.perform caches op = .ok cs) : ∀ c ∈ cs,
      c.columnLists = (op.inserted?.map fun ms => some (ms.map Member.columnName)).toList ∧
      ((∃ ms ∈ op.inserted?, ∃ m ∈ ms, m.identity = true) ↔ op.GivesIdentity) ∧
      ((op.entity.mapped.map Member.columnName).Nodup →
        ((∃ columns, some columns ∈ c.columnLists ∧
            ∃ m ∈ op.entity.mapped, m.identity = true ∧ m.columnName ∈ columns) ↔
          op.GivesIdentity)) := by
  intro c hc
  have hmakes := perform_makes h c hc
  have hlists : c.columnLists =
      (op.inserted?.map fun ms => some (ms.map Member.columnName)).toList := by
    cases hop : op.inserted? with
    | none => exact (hmakes.insertsNothing hop).columnLists_eq
    | some ms => exact (hmakes.inserts ms hop).columnLists_eq
  refine ⟨hlists, Operation.inserts_identity_iff, fun hdistinct => ?_⟩
  rw [← Operation.inserts_identity_iff, hlists]
  constructor
  · rintro ⟨columns, hcolumns, m, hm, hidentity, hmem⟩
    obtain ⟨ms, hms, hread⟩ := Option.map_eq_some_iff.1 (Option.mem_toList.1 hcolumns)
    cases hread
    obtain ⟨m', hm', hsame⟩ := List.mem_map.1 hmem
    -- a column belongs to one mapped member only
    have heq := List.inj_on_of_nodup_map hdistinct (Operation.mem_mapped_of_inserted hms hm') hm hsame
    rw [heq] at hm'
    exact ⟨ms, hms, m, hm', hidentity⟩
  · rintro ⟨ms, hms, m, hm, hidentity⟩
    refine ⟨ms.map Member.columnName, ?_, m, Operation.mem_mapped_of_inserted hms hm, hidentity,
      List.mem_map_of_mem hm⟩
    rw [Option.mem_toList, Option.mem_def.1 hms]
    rfl

namespace Enrolment

/-- Clubs that the database numbers. -/
def generated : Entity where
  name := "Club"
  members := [{ name := "Id", identity := true }, { name := "Name" }]

/-- A club, with a number given by the caller. -/
def seventh : Operation := .insertTemplate generated ⟨[("Id", .int 7), ("Name", .text "Chess")]⟩

end Enrolment

open Enrolment in
theorem perform_identity_seventh :
    ∃ c, ({} : Generator).perform {} seventh = .ok [c] ∧
      (seventh.entity.mapped.map Member.columnName).Nodup ∧
      ∃ columns, some columns ∈ c.columnLists ∧
        ∃ m ∈ seventh.entity.mapped, m.identity = true ∧ m.columnName ∈ columns := by
  have hok : ∃ c, ({} : Generator).perform {} seventh = .ok [c] := ⟨_, rfl⟩
  obtain ⟨c, h⟩ := hok
  have hgives : seventh.GivesIdentity := ⟨_, rfl, ("Id", .int 7), by decide, _, rfl, rfl⟩
  have hdistinct : (seventh.entity.mapped.map Member.columnName).Nodup := by decide
  obtain ⟨-, -, hwritten⟩ := perform_identity h c (List.mem_singleton_self c)
  exact ⟨c, h, hdistinct, (hwritten hdistinct).2 hgives⟩

open Enrolment in
/-- A templated insertion writes a column that the database generates. -/
theorem not_identity_left_out :
    ¬ ∀ (g : Generator) (caches : Caches) (op : Operation) (cs : List Command),
      g.perform caches op = .ok cs → ∀ c ∈ cs, ∀ columns, some columns ∈ c.columnLists →
        ∀ m ∈ op.entity.mapped, m.identity = true → m.columnName ∉ columns := by
  intro hclaim
  refine hclaim {} {} seventh _ rfl _ List.mem_cons_self ["Id", "Name"] ?_
    { name := "Id", identity := true } ?_ rfl ?_
  · decide
  · decide
  · decide

end Rowgraph
