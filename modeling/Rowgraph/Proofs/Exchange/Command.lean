import Rowgraph.Proofs.Exchange.Condition

/-!
# Commands with exchanged values

A generator makes commands of the same text for two inputs that differ in values only, or refuses both
(`statements_alike`). Each part of a statement is shown to agree in both runs: the clauses of the joins, the
selection, the grouping, the order, the assignments; the conditions do by `couples_bound`.
-/

set_option autoImplicit false

namespace Rowgraph

variable {k : Likeness}

/-! ## Joins -/

namespace Join

theorem Alike.isNone_eq {j j' : Join} (h : Join.Alike k j j') :
    j.condition.isNone = j'.condition.isNone := by
  have hcondition := h.condition
  generalize j.condition = condition at hcondition ⊢
  generalize j'.condition = condition' at hcondition ⊢
  cases hcondition <;> rfl

variable {joins joins' : List Join}

theorem entities_eq (h : List.Forall₂ (Join.Alike k) joins joins') (root : Entity) :
    entities root joins = entities root joins' := by
  rw [entities, entities, map_eq_of_forall₂ (h.imp fun _ _ hj => hj.entity)]

theorem checkFrom_eq (h : List.Forall₂ (Join.Alike k) joins joins') :
    ∀ position, checkFrom position joins = checkFrom position joins' := by
  induction h with
  | nil => exact fun _ => rfl
  | cons hj _ ih =>
    intro position
    rw [checkFrom, checkFrom, checkAt, checkAt, hj.parent, hj.entity, hj.isNone_eq, ih]

theorem check_eq (h : List.Forall₂ (Join.Alike k) joins joins') : check joins = check joins' := by
  rw [check, check, h.length_eq, checkFrom_eq h]

theorem couples_clauseAt {j j' : Join} (h : Join.Alike k j j') (c : Context) (position : Nat) :
    Couples (Parameters.Alike k) (· = ·) (clauseAt c position j) (clauseAt c position j') := by
  have hcondition := h.condition
  rw [clauseAt, clauseAt, h.entity, h.kind]
  refine (Couples.lift (Agree.refl _)).bind_eq fun table => ?_
  generalize j.condition = condition at hcondition ⊢
  generalize j'.condition = condition' at hcondition ⊢
  cases hcondition with
  | none => exact Couples.throw _ _
  | some he => exact (Condition.couples_bound he).bind_eq fun _ => Couples.pure rfl

theorem couples_clausesFrom (h : List.Forall₂ (Join.Alike k) joins joins') (c : Context) :
    ∀ position, Couples (Parameters.Alike k) (· = ·) (clausesFrom c position joins)
      (clausesFrom c position joins') := by
  induction h with
  | nil => exact fun _ => Couples.pure rfl
  | cons hj _ ih =>
    intro position
    rw [clausesFrom, clausesFrom]
    exact (couples_clauseAt hj c position).bind_eq fun _ => (ih _).bind_eq fun _ => Couples.pure rfl

theorem couples_clauses (h : List.Forall₂ (Join.Alike k) joins joins') (c : Context) :
    Couples (Parameters.Alike k) (· = ·) (clauses c joins) (clauses c joins') := by
  rw [clauses, clauses, check_eq h]
  exact (Couples.lift (Agree.refl _)).bind_eq fun _ => couples_clausesFrom h c 1

end Join

/-! ## What a query puts out -/

/-- A selection, a grouping and an order are made of members, or refused. -/
theorem agree_of_member?_eq {α : Type} {e e' : Expr} (h : e.member? = e'.member?)
    {refusal refusal' : Error} {f : MemberRef → Except Error α} :
    Agree (· = ·)
      (match e.member? with
        | none => .error refusal
        | some ref => f ref)
      (match e'.member? with
        | none => .error refusal'
        | some ref => f ref) := by
  rw [h]
  cases e'.member? with
  | none => exact .error _ _
  | some ref => exact Agree.refl _

namespace SelectList

theorem ofPicks_agree {picks picks' : Option (List Pick)}
    (h : Option.Rel (List.Forall₂ (Pick.Alike k)) picks picks') (scope : Scope) :
    Agree (· = ·) (ofPicks scope picks) (ofPicks scope picks') := by
  have hrequested : Agree (· = ·) (requested scope picks) (requested scope picks') := by
    cases h with
    | none => exact Agree.refl _
    | some hpicks =>
      cases hpicks with
      | nil => exact Agree.refl _
      | cons hpick hrest =>
        refine Agree.mapM_eq (.cons hpick hrest) fun a b hab => ?_
        rw [pickColumn, pickColumn, hab.rename]
        exact agree_of_member?_eq hab.expr.member?_eq
  exact hrequested.bind_eq fun _ => Agree.refl _

end SelectList

namespace Grouping

theorem columns_agree {es es' : List Expr} (h : List.Forall₂ (Expr.Alike k) es es') (scope : Scope) :
    Agree (· = ·) (columns scope es) (columns scope es') := by
  refine Agree.mapM_eq h fun e e' he => ?_
  rw [groupedMember, groupedMember]
  exact agree_of_member?_eq he.member?_eq

theorem item_agree {e e' : Expr} (h : Expr.Alike k e e') (scope : Scope) (grouped : List Resolved) :
    Agree (· = ·) (item scope grouped e) (item scope grouped e') := by
  cases h with
  | aggregate function arg =>
    have haggregate : Agree (· = ·) (aggregate scope function _) (aggregate scope function _) :=
      agree_of_member?_eq arg.member?_eq
    exact haggregate.bind_eq fun _ => Agree.refl _
  | aggregateRows function => exact Agree.refl _
  | member ref => exact Agree.refl _
  | _ => exact .error _ _

theorem project_agree {items items' : List (String × Expr)}
    (h : List.Forall₂ (fun a b => a.1 = b.1 ∧ Expr.Alike k a.2 b.2) items items') (scope : Scope)
    (grouped : List Resolved) :
    Agree (· = ·) (project scope grouped items) (project scope grouped items') := by
  have hitems := h
  rw [project, project]
  cases h with
  | nil => exact Agree.refl _
  | cons _ _ =>
    refine (Agree.mapM_eq hitems fun a b hab => ?_).bind_eq fun _ => Agree.refl _
    obtain ⟨name, e⟩ := a
    obtain ⟨name', e'⟩ := b
    obtain ⟨rfl, he⟩ := hab
    exact (item_agree he scope grouped).bind_eq fun _ => Agree.refl _

end Grouping

namespace Query

theorem memberOrder_agree {a b : OrderItem} (h : OrderItem.Alike k a b) (scope : Scope) :
    Agree (· = ·) (memberOrder scope a) (memberOrder scope b) := by
  rw [memberOrder, memberOrder, h.direction]
  exact agree_of_member?_eq h.expr.member?_eq

theorem projectedName_agree {e e' : Expr} (h : Expr.Alike k e e') (scope : Scope)
    (columns : List ProjectedColumn) :
    Agree (· = ·) (projectedName scope columns e) (projectedName scope columns e') := by
  cases h <;> exact Agree.refl _

theorem groupedOrder_agree {a b : OrderItem} (h : OrderItem.Alike k a b) (scope : Scope)
    (columns : List ProjectedColumn) :
    Agree (· = ·) (groupedOrder scope columns a) (groupedOrder scope columns b) := by
  rw [groupedOrder, groupedOrder, h.direction]
  refine (projectedName_agree h.expr scope columns).bind_eq fun name => ?_
  cases name with
  | none => exact .error _ _
  | some name => exact Agree.refl _

variable {q q' : Query}

theorem Alike.scope_eq (h : Query.Alike k q q') : q.scope = q'.scope := by
  rw [scope, scope, entities, entities, h.root, Join.entities_eq h.joins]

theorem Alike.output_agree (h : Query.Alike k q q') : Agree (· = ·) q.output q'.output := by
  have hgroupBy := h.groupBy
  have hprojection := h.projection
  rw [output.eq_def, output.eq_def, h.scope_eq]
  generalize q.groupBy = columns at hgroupBy ⊢
  generalize q'.groupBy = columns' at hgroupBy ⊢
  generalize q.projection = projection at hprojection ⊢
  generalize q'.projection = projection' at hprojection ⊢
  cases hgroupBy with
  | nil =>
    cases hprojection with
    | none => exact (SelectList.ofPicks_agree h.picks _).map fun _ _ heq => congrArg _ heq
    | some _ => exact .error _ _
  | cons he hes =>
    cases hprojection with
    | none => exact .error _ _
    | some hitems =>
      refine (Grouping.columns_agree (.cons he hes) _).bind_eq fun grouped => ?_
      exact (Grouping.project_agree hitems _ grouped).bind_eq fun _ => Agree.refl _

theorem Alike.couples_whereClause (h : Query.Alike k q q') :
    Couples (Parameters.Alike k) (· = ·) q.whereClause q'.whereClause := by
  have hfilter := h.filter
  rw [whereClause.eq_def, whereClause.eq_def, h.scope_eq]
  generalize q.filter = filter at hfilter ⊢
  generalize q'.filter = filter' at hfilter ⊢
  cases hfilter with
  | none => exact Couples.pure rfl
  | some he => exact (Condition.couples_bound he).bind_eq fun _ => Couples.pure rfl

theorem Alike.couples_source (h : Query.Alike k q q') (g : Generator) :
    Couples (Parameters.Alike k) (· = ·) (q.source g) (q'.source g) := by
  rw [source, source, h.scope_eq, h.root, h.dirtyRead]
  exact (Join.couples_clauses h.joins _).bind_eq fun _ =>
    h.couples_whereClause.bind_eq fun _ => Couples.pure rfl

theorem Alike.top_eq (h : Query.Alike k q q') : q.top = q'.top := by
  rw [top.eq_def, top.eq_def, h.take, h.skip]

theorem Alike.ending_eq (h : Query.Alike k q q') (orders : List (List Token)) :
    q.ending orders = q'.ending orders := by
  rw [ending.eq_def, ending.eq_def, fetch, fetch, h.take, h.skip]

theorem Alike.selectHead_eq (h : Query.Alike k q q') : q.selectHead = q'.selectHead := by
  rw [selectHead, selectHead, h.distinct]

theorem Alike.couples_selectMembers (h : Query.Alike k q q') (g : Generator) (list : SelectList) :
    Couples (Parameters.Alike k) (· = ·) (q.selectMembers g list) (q'.selectMembers g list) := by
  rw [selectMembers, selectMembers, h.top_eq, h.scope_eq, h.selectHead_eq]
  refine (Couples.lift (Agree.refl _)).bind_eq fun top => ?_
  refine (h.couples_source g).bind_eq fun source => ?_
  refine (Couples.lift (Agree.mapM_eq h.orderBy fun a b hab =>
    memberOrder_agree hab _)).bind_eq fun orders => ?_
  rw [h.ending_eq]
  exact (Couples.lift (Agree.refl _)).bind_eq fun _ => Couples.pure rfl

theorem Alike.couples_selectGroups (h : Query.Alike k q q') (g : Generator) (grouped : List Resolved)
    (projection : Projection) :
    Couples (Parameters.Alike k) (· = ·) (q.selectGroups g grouped projection)
      (q'.selectGroups g grouped projection) := by
  rw [selectGroups, selectGroups, h.top_eq, h.scope_eq, h.selectHead_eq]
  refine (h.couples_source g).bind_eq fun source => ?_
  refine (Couples.lift (Agree.refl _)).bind_eq fun top => ?_
  refine (Couples.lift (Agree.mapM_eq h.orderBy fun a b hab =>
    groupedOrder_agree hab _ _)).bind_eq fun orders => ?_
  rw [h.ending_eq]
  exact (Couples.lift (Agree.refl _)).bind_eq fun _ => Couples.pure rfl

theorem Alike.couples_select (h : Query.Alike k q q') (g : Generator) :
    Couples (Parameters.Alike k) (· = ·) (q.select g) (q'.select g) := by
  rw [select, select, Join.check_eq h.joins]
  refine (Couples.lift (Agree.refl _)).bind_eq fun _ => ?_
  refine (Couples.lift h.output_agree).bind_eq fun out => ?_
  cases out with
  | members list => exact (h.couples_selectMembers g list).bind_eq fun _ => Couples.pure rfl
  | groups grouped projection =>
    exact (h.couples_selectGroups g grouped projection).bind_eq fun _ => Couples.pure rfl

end Query

/-! ## Assignments -/

namespace Likeness

variable {a b : Row}

theorem rows.find?_rel (h : k.rows a b) (name : String) :
    Option.Rel k.row (a.find? name) (b.find? name) := by
  rw [Row.find?, Row.find?]
  rw [rows] at h
  generalize a.columns = as at h ⊢
  generalize b.columns = bs at h ⊢
  -- the names are the same in both rows, so that both are searched equally far
  induction h with
  | nil => exact .none
  | @cons c d as bs hcd _ ih =>
    rw [List.lookup_cons, List.lookup_cons, hcd.1]
    cases name == d.1 with
    | true => exact .some hcd.2
    | false => exact ih

/-- A member that a row has no value for is NULL in both rows. -/
theorem rows.bound_findD (h : k.rows a b) (name : String) :
    k.bound (a.findD name) (b.findD name) := by
  have hfind := h.find?_rel name
  rw [Row.findD, Row.findD]
  generalize a.find? name = found at hfind ⊢
  generalize b.find? name = found' at hfind ⊢
  cases hfind with
  | none => exact bound_refl _
  | some hvalue => exact bound_of_row hvalue

end Likeness

namespace Assignment

theorem couples_assign (m : Member) {v w : Value} (h : k.bound v w) :
    Couples (Parameters.Alike k) (· = ·) (assign m v) (assign m w) := by
  have hbind : Couples (Parameters.Alike k) (· = ·) (BindM.bindFor m v) (BindM.bindFor m w) :=
    fun ps ps' hps => .ok (hps.bind_alike m.name h (some m))
  exact hbind.bind_eq fun _ => Couples.pure rfl

theorem couples_named {cs ds : List (String × Value)} (e : Entity)
    (h : List.Forall₂ (fun c d => c.1 = d.1 ∧ k.row c.2 d.2) cs ds) :
    Couples (Parameters.Alike k) (· = ·) (named e cs) (named e ds) := by
  induction h with
  | nil => exact Couples.pure rfl
  | @cons c d cs ds hcd _ ih =>
    obtain ⟨name, v⟩ := c
    obtain ⟨name', w⟩ := d
    obtain ⟨rfl, hvalue⟩ := hcd
    rw [named, named]
    refine (Couples.lift (Agree.refl _)).bind_eq fun m => ?_
    exact (couples_assign m (Likeness.bound_of_row hvalue)).bind_eq fun _ =>
      ih.bind_eq fun _ => Couples.pure rfl

variable {a b : Row}

theorem couples_ofValues (e : Entity) (h : k.rows a b) :
    Couples (Parameters.Alike k) (· = ·) (ofValues e a) (ofValues e b) := by
  refine (couples_named e h).bind_eq fun found => ?_
  cases found with
  | nil => exact Couples.throw _ _
  | cons _ _ => exact Couples.pure rfl

theorem couples_ofItem (e : Entity) (h : k.rows a b) :
    Couples (Parameters.Alike k) (· = ·) (ofItem e a) (ofItem e b) := by
  have hall : ∀ ms : List Member, Couples (Parameters.Alike k) (· = ·)
      (ms.mapM fun m => assign m (a.findD m.name)) (ms.mapM fun m => assign m (b.findD m.name)) := by
    intro ms
    induction ms with
    | nil => exact Couples.pure rfl
    | cons m ms ih =>
      rw [List.mapM_cons, List.mapM_cons]
      exact (couples_assign m (h.bound_findD m.name)).bind_eq fun _ =>
        ih.bind_eq fun _ => Couples.pure rfl
  refine (hall e.insertable).bind_eq fun found => ?_
  cases found with
  | nil => exact Couples.throw _ _
  | cons _ _ => exact Couples.pure rfl

end Assignment

/-! ## Statements -/

section Statements

variable {g : Generator} {e : Entity}

/-- What a computation binds starts from no parameters in both runs. -/
theorem run_agree {α : Type} {m m' : BindM α} (hg : k.inlineNumbers = g.inlineNumbers)
    (h : Couples (Parameters.Alike k) (· = ·) m m') :
    Agree (fun a b => a.1 = b.1 ∧ a.2.Alike k b.2) (g.run m) (g.run m') := by
  have hrun : ∀ m : BindM α, g.run m = outcome m g.unbound := by
    intro m
    rw [Generator.run, outcome, Generator.unbound]
    rcases m.run.run { inlineNumbers := g.inlineNumbers } with ⟨_ | a, ps⟩
    · rfl
    · rfl
  rw [hrun, hrun]
  exact h _ _ ⟨rfl, fun hinline => hg.trans hinline, .nil⟩

theorem command_agree {m m' : BindM (List Token)} (hg : k.inlineNumbers = g.inlineNumbers)
    (h : Couples (Parameters.Alike k) (· = ·) m m') :
    Agree (Command.Alike k) (g.command m) (g.command m') :=
  (run_agree hg h).map fun _ _ hab => ⟨hab.1, hab.2, .none, rfl⟩

theorem select_agree {q q' : Query} (hg : k.inlineNumbers = g.inlineNumbers)
    (h : Query.Alike k q q') : Agree (Command.Alike k) (g.select q) (g.select q') := by
  refine (run_agree hg (h.couples_select g)).map fun a b hab => ?_
  -- tokens and split are one result, the parameters are the state
  obtain ⟨⟨ts, split⟩, ps⟩ := a
  obtain ⟨⟨ts', split'⟩, ps'⟩ := b
  obtain ⟨heq, hps⟩ := hab
  cases heq
  exact ⟨rfl, hps, .none, rfl⟩

variable {a b : Row} {f f' : Expr}

theorem insert_agree (hg : k.inlineNumbers = g.inlineNumbers) (h : k.rows a b) :
    Agree (Command.Alike k) (g.insert e a) (g.insert e b) :=
  command_agree hg ((Assignment.couples_ofItem e h).bind_eq fun _ => Couples.pure rfl)

theorem insertOutput_agree (hg : k.inlineNumbers = g.inlineNumbers) (h : k.rows a b) :
    Agree (Command.Alike k) (g.insertOutput e a) (g.insertOutput e b) :=
  command_agree hg ((Assignment.couples_ofItem e h).bind_eq fun _ => Couples.pure rfl)

theorem insertIfAbsent_agree (hg : k.inlineNumbers = g.inlineNumbers) (h : k.rows a b)
    (hf : Expr.Alike k f f') :
    Agree (Command.Alike k) (g.insertIfAbsent e a f) (g.insertIfAbsent e b f') :=
  command_agree hg ((Assignment.couples_ofItem e h).bind_eq fun _ =>
    (Condition.couples_bound hf).bind_eq fun _ => Couples.pure rfl)

/-- A template names the same members in both runs. -/
theorem missing_eq (h : k.rows a b) (required : List Member) :
    Generator.missing required a = Generator.missing required b := by
  rw [Generator.missing, Generator.missing]
  congr 1
  refine List.filter_congr fun m _ => ?_
  have hfind := h.find?_rel m.name
  generalize a.find? m.name = found at hfind ⊢
  generalize b.find? m.name = found' at hfind ⊢
  cases hfind <;> rfl

theorem insertTemplate_agree (hg : k.inlineNumbers = g.inlineNumbers) (h : k.rows a b)
    (caches : Caches) :
    Agree (Command.Alike k) (g.insertTemplate e a caches).1 (g.insertTemplate e b caches).1 := by
  rw [Generator.insertTemplate, Generator.insertTemplate]
  dsimp only
  rw [missing_eq h]
  split
  · exact command_agree hg ((Assignment.couples_ofValues e h).bind_eq fun _ => Couples.pure rfl)
  · exact .error _ _

theorem update_agree (hg : k.inlineNumbers = g.inlineNumbers) (h : k.rows a b)
    (hf : Expr.Alike k f f') : Agree (Command.Alike k) (g.update e a f) (g.update e b f') :=
  command_agree hg ((Assignment.couples_ofValues e h).bind_eq fun _ =>
    (Condition.couples_bound hf).bind_eq fun _ => Couples.pure rfl)

theorem upsert_agree (hg : k.inlineNumbers = g.inlineNumbers) (h : k.rows a b)
    (hf : Expr.Alike k f f') : Agree (Command.Alike k) (g.upsert e a f) (g.upsert e b f') :=
  command_agree hg ((Assignment.couples_ofValues e h).bind_eq fun _ =>
    (Condition.couples_bound hf).bind_eq fun _ => Couples.pure rfl)

theorem delete_agree (hg : k.inlineNumbers = g.inlineNumbers) (hf : Expr.Alike k f f') :
    Agree (Command.Alike k) (g.delete e f) (g.delete e f') :=
  command_agree hg ((Condition.couples_bound hf).bind_eq fun _ => Couples.pure rfl)

theorem deleteJoined_agree (hg : k.inlineNumbers = g.inlineNumbers) {joins joins' : List Join}
    (h : List.Forall₂ (Join.Alike k) joins joins') (hf : Expr.Alike k f f') :
    Agree (Command.Alike k) (g.deleteJoined e joins f) (g.deleteJoined e joins' f') := by
  have hentities := Join.entities_eq h e
  rw [Generator.deleteJoined, Generator.deleteJoined, hentities]
  cases h with
  | nil => exact delete_agree hg hf
  | cons hj hrest =>
    exact command_agree hg ((Join.couples_clauses (.cons hj hrest) _).bind_eq fun _ =>
      (Condition.couples_bound hf).bind_eq fun _ => Couples.pure rfl)

/-! ## Bulk statements -/

variable {items items' : List Row}

theorem noParameters_alike : Parameters.Alike k {} {} :=
  ⟨rfl, fun h => absurd h Bool.false_ne_true, .nil⟩

theorem matchMembers_agree (hf : Expr.Alike k f f') :
    Agree (· = ·) (matchMembers e f) (matchMembers e f') := by
  have hcondition : Agree (· = ·) (Condition.ofExpr (.single e) f {}).1
      (Condition.ofExpr (.single e) f' {}).1 :=
    Condition.ofExpr_agree hf noParameters_alike
  rw [matchMembers, matchMembers]
  generalize (Condition.ofExpr (.single e) f {}).1 = x at hcondition ⊢
  generalize (Condition.ofExpr (.single e) f' {}).1 = y at hcondition ⊢
  cases hcondition with
  | error => exact .error _ _
  | ok heq =>
    cases heq
    exact Agree.refl _

theorem ofRows_agree (h : List.Forall₂ k.rows items items') (members : List Member) :
    Agree TableParameter.Alike (TableParameter.ofRows e members items)
      (TableParameter.ofRows e members items') := by
  refine (Agree.refl e.requireTableType).bind_eq fun typeName => ?_
  cases h with
  | nil => exact .error _ _
  | cons hrow hrest =>
    refine .ok ⟨rfl, rfl, rfl, ?_⟩
    have hall := List.Forall₂.cons hrow hrest
    rw [List.forall₂_map_left_iff, List.forall₂_map_right_iff]
    exact hall.imp fun _ _ _ => by rw [List.length_map, List.length_map]

/-- The placeholder of the rows does not depend on the cells. -/
theorem TableParameter.Alike.placeholder_eq {t t' : TableParameter} (h : TableParameter.Alike t t') :
    t.placeholder = t'.placeholder := by
  rw [placeholder, placeholder, h.name]

theorem bulkUpdating_eq {t t' : TableParameter} (h : TableParameter.Alike t t')
    (matched : List Member) : e.bulkUpdating t matched = e.bulkUpdating t' matched := by
  rw [Entity.bulkUpdating, Entity.bulkUpdating, TableParameter.source, TableParameter.source,
    h.placeholder_eq]

theorem bulkInsert_agree (h : List.Forall₂ k.rows items items') :
    Agree (Command.Alike k) (g.bulkInsert e items) (g.bulkInsert e items') := by
  refine (ofRows_agree h _).bind fun t t' ht => .ok ⟨?_, noParameters_alike, .some ht, rfl⟩
  dsimp only
  rw [ht.placeholder_eq]

theorem bulkUpdate_agree (h : List.Forall₂ k.rows items items') (hf : Expr.Alike k f f') :
    Agree (Command.Alike k) (g.bulkUpdate e items f) (g.bulkUpdate e items' f') := by
  refine (matchMembers_agree hf).bind_eq fun matched => ?_
  refine (ofRows_agree h _).bind fun t t' ht => ?_
  rw [bulkUpdating_eq ht]
  exact (Agree.refl _).bind_eq fun tokens => .ok ⟨rfl, noParameters_alike, .some ht, rfl⟩

theorem bulkUpsert_agree (h : List.Forall₂ k.rows items items') (hf : Expr.Alike k f f') :
    Agree (Command.Alike k) (g.bulkUpsert e items f) (g.bulkUpsert e items' f') := by
  refine (matchMembers_agree hf).bind_eq fun matched => ?_
  refine (ofRows_agree h _).bind fun t t' ht => ?_
  rw [bulkUpdating_eq ht]
  refine (Agree.refl _).bind_eq fun tokens => .ok ⟨?_, noParameters_alike, .some ht, rfl⟩
  rw [Entity.bulkInserting, Entity.bulkInserting, TableParameter.source, TableParameter.source,
    ht.placeholder_eq]

end Statements

theorem perform_agree {g : Generator} {caches : Caches} {op op' : Operation}
    (hg : k.inlineNumbers = g.inlineNumbers) (h : Operation.Alike k op op') :
    Agree (List.Forall₂ (Command.Alike k)) (g.perform caches op) (g.perform caches op') := by
  have hone : ∀ {x y : Except Error Command}, Agree (Command.Alike k) x y →
      Agree (List.Forall₂ (Command.Alike k)) (x.map ([·])) (y.map ([·])) :=
    fun hxy => hxy.map fun _ _ hcd => .cons hcd .nil
  cases h with
  | select h => exact hone (select_agree hg h)
  | insert e h => exact hone (insert_agree hg h)
  | insertOutput e h => exact hone (insertOutput_agree hg h)
  | insertMany e h => exact Agree.mapM h fun _ _ hitem => insert_agree hg hitem
  | insertIfAbsent e h condition => exact hone (insertIfAbsent_agree hg h condition)
  | insertTemplate e h => exact hone (insertTemplate_agree hg h caches)
  | update e h condition => exact hone (update_agree hg h condition)
  | upsert e h condition => exact hone (upsert_agree hg h condition)
  | delete e condition => exact hone (delete_agree hg condition)
  | deleteJoined e h condition => exact hone (deleteJoined_agree hg h condition)
  | bulkInsert e h => exact hone (bulkInsert_agree h)
  | bulkUpdate e h condition => exact hone (bulkUpdate_agree h condition)
  | bulkUpsert e h condition => exact hone (bulkUpsert_agree h condition)

theorem Command.Alike.statement_alike {c c' : Command} (h : Command.Alike k c c') :
    Statement.Alike k c.statement c'.statement where
  sql := congrArg Tokens.text h.tokens
  params := h.params
  table := h.table
  split := h.split

/-- Two inputs that differ in values only are both refused, or give statements that differ in values only:
the text, the names of the parameters in order, which of them are inline, and the split are the same. -/
theorem statements_alike {g : Generator} {caches : Caches} {op op' : Operation}
    (hg : k.inlineNumbers = g.inlineNumbers) (h : Operation.Alike k op op') :
    Agree (List.Forall₂ (Statement.Alike k)) (g.statements caches op) (g.statements caches op') := by
  refine (perform_agree hg h).map fun cs ds hcs => ?_
  rw [List.forall₂_map_left_iff, List.forall₂_map_right_iff]
  exact hcs.imp fun _ _ hcd => hcd.statement_alike

/-- Another club, without a name. -/
def Enrolment.nameless : Operation :=
  .upsert club ⟨[("Id", .int 9), ("Name", .null)]⟩
    (.compare (.member ⟨0, "Id"⟩) .eq (.value (.int 8)))

open Enrolment in
theorem statements_alike_nameless :
    (∃ ss, ({ inlineNumbers := true } : Generator).statements {} chess = .ok ss) ∧
      Operation.Alike (.greatest true) chess nameless ∧
      Agree (List.Forall₂ (Statement.Alike (.greatest true)))
        (({ inlineNumbers := true } : Generator).statements {} chess)
        (({ inlineNumbers := true } : Generator).statements {} nameless) := by
  have halike : Operation.Alike (.greatest true) chess nameless := by
    refine .upsert club ?_ (.compare .eq (.member _) (.value ⟨rfl, rfl, fun _ => rfl⟩))
    exact .cons ⟨rfl, fun _ => rfl⟩ (.cons ⟨rfl, fun _ => rfl⟩ .nil)
  exact ⟨⟨_, rfl⟩, halike, statements_alike rfl halike⟩

end Rowgraph
