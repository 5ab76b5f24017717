import Rowgraph.Proofs.Columns.Parts
import Rowgraph.Proofs.Condition.Grammar
import Rowgraph.Proofs.Selection

/-!
# From a request to a select list

What a select list is, said of the request alone (`ofPicks_outcome`): a request is refused for its first item
that is no mapped member, or else for the first joined table that it takes no column from; otherwise its
columns are sorted by table, and those of one table keep the order of the request (`SelectList.Lays`). Since
the columns are sorted, the first of a table stands behind just the columns of the tables before it.
-/

set_option autoImplicit false

namespace Rowgraph

open SelectList (columnsAt)

/-! ## Requests -/

namespace Scope

variable (scope : Scope)

/-- What becomes of a selected expression: the column of a mapped member, or the reason why it is none. -/
inductive Answers : Pick → Except Error SelectedColumn → Prop
  | column {ref : MemberRef} {e : Entity} {m : Member} {rename : Option String}
      (entity : scope.entities[ref.position]? = some e) (found : e.member? ref.name = some m)
      (mapped : m.notMapped = false) :
      Answers ⟨.member ref, rename⟩ (.ok ⟨⟨ref.position, e, m⟩, rename.getD m.name⟩)
  | expression {pick : Pick} (other : ∀ ref, pick.expr ≠ .member ref) :
      Answers pick (.error (.unsupported (.selected pick.expr)))
  | position {ref : MemberRef} {rename : Option String}
      (beyond : scope.entities[ref.position]? = none) :
      Answers ⟨.member ref, rename⟩
        (.error (.positionOutOfScope ref.position scope.entities.length))
  | unknown {ref : MemberRef} {e : Entity} {rename : Option String}
      (entity : scope.entities[ref.position]? = some e) (missing : e.member? ref.name = none) :
      Answers ⟨.member ref, rename⟩ (.error (.unknownMember e.name ref.name))
  | unmapped {ref : MemberRef} {e : Entity} {m : Member} {rename : Option String}
      (entity : scope.entities[ref.position]? = some e) (found : e.member? ref.name = some m)
      (notMapped : m.notMapped = true) :
      Answers ⟨.member ref, rename⟩ (.error (.notMapped e.name ref.name))

/-- What becomes of a request: its columns in its order, or the error of its first item that has one. -/
inductive Asks : Option (List Pick) → Except Error (List SelectedColumn) → Prop
  | all : Asks none (.ok (scope.mapped.map fun r => ⟨r, r.member.name⟩))
  | nothing : Asks (some []) (.error .emptySelection)
  | columns {picks : List Pick} {columns : List SelectedColumn} (nonempty : picks ≠ [])
      (answers : List.Forall₂ (fun pick c => scope.Answers pick (.ok c)) picks columns) :
      Asks (some picks) (.ok columns)
  | item {picks : List Pick} {i : Nat} {pick : Pick} {e : Error} (item : picks[i]? = some pick)
      (refused : scope.Answers pick (.error e))
      (before : ∀ j earlier, j < i → picks[j]? = some earlier → ∃ c, scope.Answers earlier (.ok c)) :
      Asks (some picks) (.error e)

/-- Does the request name mapped members only, and at least one unless it is left out? -/
def Admits : Option (List Pick) → Prop
  | none => True
  | some picks => picks ≠ [] ∧ ∀ pick ∈ picks, ∃ ref, pick.expr = .member ref ∧ scope.Has ref

/-- Does the request take a column from the table at the position? -/
def Covers : Option (List Pick) → Nat → Prop
  | none, position => ∃ e, scope.entities[position]? = some e ∧ e.mapped ≠ []
  | some picks, position => ∃ pick ∈ picks, ∃ ref, pick.expr = .member ref ∧ ref.position = position

end Scope

/-! ## Select lists -/

/-- Are the columns sorted by table? -/
def SelectList.Ascending (columns : List SelectedColumn) : Prop :=
  columns.Pairwise fun c d => c.source.position ≤ d.source.position

/-- Is it the columns sorted by table? Within a table they keep their order; each item ends in the name that
its column has in result rows, and the points say where each joined table begins. -/
structure SelectList.Lays (list : SelectList) (scope : Scope) (columns : List SelectedColumn) : Prop where
  permuted : list.columns.Perm columns
  ascending : SelectList.Ascending list.columns
  stable : ∀ position, columnsAt list.columns position = columnsAt columns position
  tokens : list.tokens = Tokens.separated (list.columns.map (·.tokens scope))
  named : ∀ c ∈ list.columns, scope.column c.source <+: c.tokens scope ∧
    (c.tokens scope).getLast? = some (.ident c.output)
  joined : list.split.points.length = scope.entities.length - 1
  points : ∀ i point, list.split.points[i]? = some point →
    ∃ c, (columnsAt list.columns (i + 1)).head? = some c ∧
      point = ⟨i + 1, c.output, list.columns.countP fun c => c.source.position < i + 1⟩

/-- What becomes of a selection. -/
inductive Scope.Outcome (scope : Scope) (picks : Option (List Pick)) : Except Error SelectList → Prop
  | refused {e : Error} (asked : scope.Asks picks (.error e)) : Outcome scope picks (.error e)
  | uncovered {position : Nat} {e : Entity} (admitted : scope.Admits picks) (joined : 1 ≤ position)
      (entity : scope.entities[position]? = some e) (missing : ¬ scope.Covers picks position)
      (before : ∀ earlier, 1 ≤ earlier → earlier < position → scope.Covers picks earlier) :
      Outcome scope picks (.error (.uncoveredJoin e.name))
  | made {columns : List SelectedColumn} {list : SelectList} (asked : scope.Asks picks (.ok columns))
      (lays : list.Lays scope columns) : Outcome scope picks (.ok list)

variable {scope : Scope}

/-! ## What is asked for -/

namespace SelectList

theorem pickColumn_eq_iff {pick : Pick} {result : Except Error SelectedColumn} :
    pickColumn scope pick = result ↔ scope.Answers pick result := by
  have hanswer : ∀ {result}, scope.Answers pick result → pickColumn scope pick = result := by
    intro result h
    cases h with
    | column entity found mapped =>
      simp [pickColumn, Expr.member?, Scope.resolve, Scope.entity, Entity.resolve, entity, found, mapped,
        bind, Except.bind, pure, Except.pure]
    | expression other =>
      have hnone : pick.expr.member? = none := by
        cases hexpr : pick.expr with
        | member ref => exact absurd hexpr (other ref)
        | _ => rfl
      rw [pickColumn, hnone]
    | position beyond =>
      simp [pickColumn, Expr.member?, Scope.resolve, Scope.entity, beyond, bind, Except.bind]
    | unknown entity missing =>
      simp [pickColumn, Expr.member?, Scope.resolve, Scope.entity, Entity.resolve, entity, missing, bind,
        Except.bind]
    | unmapped entity found notMapped =>
      simp [pickColumn, Expr.member?, Scope.resolve, Scope.entity, Entity.resolve, entity, found, notMapped,
        bind, Except.bind]
  -- some answer there is, and it is the result
  have htotal : ∃ result, scope.Answers pick result := by
    obtain ⟨expr, rename⟩ := pick
    cases expr with
    | member ref =>
      cases entity : scope.entities[ref.position]? with
      | none => exact ⟨_, .position entity⟩
      | some e =>
        cases found : e.member? ref.name with
        | none => exact ⟨_, .unknown entity found⟩
        | some m =>
          cases mapped : m.notMapped with
          | false => exact ⟨_, .column entity found mapped⟩
          | true => exact ⟨_, .unmapped entity found mapped⟩
    | _ => exact ⟨_, .expression fun _ => Expr.noConfusion⟩
  refine ⟨?_, hanswer⟩
  rintro rfl
  obtain ⟨result, h⟩ := htotal
  rwa [hanswer h]

theorem requested_eq_iff {picks : Option (List Pick)} {result : Except Error (List SelectedColumn)} :
    requested scope picks = result ↔ scope.Asks picks result := by
  cases picks with
  | none =>
    rw [requested, allColumns_eq]
    constructor
    · rintro rfl
      exact .all
    · rintro ⟨⟩
      rfl
  | some picks =>
    cases picks with
    | nil =>
      constructor
      · rintro rfl
        exact .nothing
      · intro h
        cases h with
        | nothing => rfl
        | columns nonempty => exact absurd rfl nonempty
        | item item => cases item
    | cons pick rest =>
      rw [requested]
      · cases result with
        | ok columns =>
          simp only [mapM_eq_ok_iff, pickColumn_eq_iff]
          constructor
          · exact .columns (List.cons_ne_nil _ _)
          · rintro ⟨⟩
            assumption
        | error e =>
          simp only [mapM_eq_error_iff, pickColumn_eq_iff]
          constructor
          · rintro ⟨i, pick, hitem, hrefused, hbefore⟩
            exact .item hitem hrefused hbefore
          · intro h
            cases h with
            | item hitem hrefused hbefore => exact ⟨_, _, hitem, hrefused, hbefore⟩
      · simp

end SelectList

namespace Scope

variable {picks : Option (List Pick)} {columns : List SelectedColumn}

theorem Answers.member {pick : Pick} {c : SelectedColumn} (h : scope.Answers pick (.ok c)) :
    ∃ ref, pick.expr = .member ref ∧ scope.Has ref ∧ c.source.position = ref.position := by
  cases h with
  | column entity found mapped => exact ⟨_, rfl, ⟨_, _, entity, found, mapped⟩, rfl⟩

theorem Has.answers {ref : MemberRef} (h : scope.Has ref) {pick : Pick} (hpick : pick.expr = .member ref) :
    ∃ c, scope.Answers pick (.ok c) := by
  obtain ⟨e, m, entity, found, mapped⟩ := h
  obtain ⟨expr, rename⟩ := pick
  cases hpick
  exact ⟨_, .column entity found mapped⟩

theorem Has.position_lt {ref : MemberRef} (h : scope.Has ref) :
    ref.position < scope.entities.length := by
  obtain ⟨e, m, entity, -, -⟩ := h
  exact (List.getElem?_eq_some_iff.1 entity).1

/-- Just the requests of mapped members have columns. -/
theorem admits_iff : scope.Admits picks ↔ ∃ columns, scope.Asks picks (.ok columns) := by
  cases picks with
  | none => exact ⟨fun _ => ⟨_, .all⟩, fun _ => trivial⟩
  | some picks =>
    constructor
    · rintro ⟨hnonempty, hmembers⟩
      -- by induction on the items alone: a request of none of them is refused
      have hall : ∀ picks : List Pick,
          (∀ pick ∈ picks, ∃ ref, pick.expr = .member ref ∧ scope.Has ref) →
          ∃ columns, List.Forall₂ (fun pick c => scope.Answers pick (.ok c)) picks columns := by
        intro picks hmembers
        induction picks with
        | nil => exact ⟨[], .nil⟩
        | cons pick rest ih =>
          obtain ⟨⟨ref, hexpr, hhas⟩, hrest⟩ := List.forall_mem_cons.1 hmembers
          obtain ⟨c, hc⟩ := hhas.answers hexpr
          obtain ⟨columns, hcolumns⟩ := ih hrest
          exact ⟨c :: columns, .cons hc hcolumns⟩
      obtain ⟨columns, hcolumns⟩ := hall picks hmembers
      exact ⟨columns, .columns hnonempty hcolumns⟩
    · rintro ⟨columns, h⟩
      cases h with
      | columns nonempty answers =>
        refine ⟨nonempty, fun pick hpick => ?_⟩
        obtain ⟨c, -, hc⟩ := exists_of_forall₂ answers hpick
        obtain ⟨ref, hexpr, hhas, -⟩ := hc.member
        exact ⟨ref, hexpr, hhas⟩

/-- The columns that are asked for are of tables in scope. -/
theorem Asks.position_lt (h : scope.Asks picks (.ok columns)) :
    ∀ c ∈ columns, c.source.position < scope.entities.length := by
  cases h with
  | all =>
    rw [List.forall_mem_map]
    intro r hr
    exact (List.getElem?_eq_some_iff.1 (mem_mapped_iff.1 hr).1).1
  | columns nonempty answers =>
    intro c hc
    obtain ⟨pick, -, hpick⟩ := exists_of_forall₂ answers.flip hc
    obtain ⟨ref, -, hhas, hposition⟩ := hpick.member
    rw [hposition]
    exact hhas.position_lt

/-- A request covers the positions of its columns. -/
theorem Asks.covers_iff (h : scope.Asks picks (.ok columns)) {position : Nat} :
    scope.Covers picks position ↔ columnsAt columns position ≠ [] := by
  have hmem : columnsAt columns position ≠ [] ↔ ∃ c ∈ columns, c.source.position = position := by
    rw [Ne, columnsAt, List.filter_eq_nil_iff]
    simp
  rw [hmem]
  cases h with
  | all =>
    constructor
    · rintro ⟨e, hentity, hmapped⟩
      obtain ⟨m, hm⟩ := List.exists_mem_of_ne_nil _ hmapped
      have hmember : (⟨position, e, m⟩ : Resolved) ∈ scope.mapped := mem_mapped_iff.2 ⟨hentity, hm⟩
      exact ⟨_, List.mem_map_of_mem hmember, rfl⟩
    · rintro ⟨c, hc, rfl⟩
      obtain ⟨r, hr, rfl⟩ := List.mem_map.1 hc
      obtain ⟨hentity, hm⟩ := mem_mapped_iff.1 hr
      exact ⟨r.entity, hentity, List.ne_nil_of_mem hm⟩
  | columns nonempty answers =>
    constructor
    · rintro ⟨pick, hpick, ref, hexpr, hposition⟩
      obtain ⟨c, hmem, hc⟩ := exists_of_forall₂ answers hpick
      obtain ⟨ref', hexpr', -, hsource⟩ := hc.member
      rw [hexpr] at hexpr'
      cases hexpr'
      exact ⟨c, hmem, hsource.trans hposition⟩
    · rintro ⟨c, hc, rfl⟩
      obtain ⟨pick, hmem, hpick⟩ := exists_of_forall₂ answers.flip hc
      obtain ⟨ref, hexpr, -, hsource⟩ := hpick.member
      exact ⟨pick, hmem, ref, hexpr, hsource.symm⟩

end Scope

/-! ## The order of the columns -/

namespace SelectList

variable {columns : List SelectedColumn}

theorem ascending_grouped (scope : Scope) (columns : List SelectedColumn) :
    Ascending (grouped scope columns) := by
  rw [grouped_eq_flatMap, Ascending, List.pairwise_flatMap]
  constructor
  · intro position _
    apply List.pairwise_of_forall_mem_list
    intro c hc d hd
    apply Nat.le_of_eq
    rw [position_of_mem_columnsAt hc, position_of_mem_columnsAt hd]
  · refine List.pairwise_lt_range.imp ?_
    intro position position' hlt c hc d hd
    rw [position_of_mem_columnsAt hc, position_of_mem_columnsAt hd]
    exact Nat.le_of_lt hlt

theorem columnsAt_eq_nil {position : Nat} (h : ∀ c ∈ columns, c.source.position < position) :
    columnsAt columns position = [] := by
  rw [columnsAt, List.filter_eq_nil_iff]
  intro c hc
  have hlt := h c hc
  simp only [beq_iff_eq]
  omega

/-- Grouping keeps the order inside every position, also outside the scope, where there is no column. -/
theorem stable_grouped (h : ∀ c ∈ columns, c.source.position < scope.entities.length) (position : Nat) :
    columnsAt (grouped scope columns) position = columnsAt columns position := by
  rcases Nat.lt_or_ge position scope.entities.length with hlt | hge
  · exact columnsAt_grouped columns hlt
  · have hgrouped : ∀ c ∈ grouped scope columns, c ∈ columns := by
      intro c hc
      obtain ⟨p, -, hc⟩ := List.mem_flatMap.1 hc
      exact List.mem_of_mem_filter hc
    -- both sides are empty: no column is of a position outside the scope
    rw [columnsAt_eq_nil, columnsAt_eq_nil]
    · intro c hc
      exact Nat.lt_of_lt_of_le (h c hc) hge
    · intro c hc
      exact Nat.lt_of_lt_of_le (h c (hgrouped c hc)) hge

/-- A column occurs as often as it does at its position, so that grouping loses none and adds none. -/
theorem perm_grouped (h : ∀ c ∈ columns, c.source.position < scope.entities.length) :
    (grouped scope columns).Perm columns := by
  have hcount : ∀ (cs : List SelectedColumn) (c : SelectedColumn),
      (columnsAt cs c.source.position).count c = cs.count c := by
    intro cs c
    apply List.count_filter
    rw [beq_self_eq_true]
  rw [List.perm_iff_count]
  intro c
  rw [← hcount (grouped scope columns), ← hcount columns, stable_grouped h]

/-- Columns that ascend are those before a position and then the others. -/
theorem eq_before_append (position : Nat) (h : Ascending columns) :
    columns = columns.filter (fun c => c.source.position < position) ++
      columns.filter fun c => position ≤ c.source.position := by
  induction columns with
  | nil => rfl
  | cons c rest ih =>
    obtain ⟨hfirst, hrest⟩ := List.pairwise_cons.1 h
    rcases Nat.lt_or_ge c.source.position position with hlt | hge
    · rw [List.filter_cons_of_pos (by simpa using hlt), List.filter_cons_of_neg (by simpa using hlt),
        List.cons_append, ← ih hrest]
    · -- neither it nor any column behind it is before the position
      have hall : ∀ d ∈ c :: rest, position ≤ d.source.position := by
        intro d hd
        rcases List.mem_cons.1 hd with rfl | hd
        · exact hge
        · exact Nat.le_trans hge (hfirst d hd)
      have hnone : (c :: rest).filter (fun d => d.source.position < position) = [] := by
        rw [List.filter_eq_nil_iff]
        intro d hd
        simpa using hall d hd
      have hself : (c :: rest).filter (fun d => position ≤ d.source.position) = c :: rest := by
        rw [List.filter_eq_self]
        intro d hd
        simpa using hall d hd
      rw [hnone, hself, List.nil_append]

/-- They are those before a position, those at it and those behind it. -/
theorem eq_blocks_of_ascending (position : Nat) (h : Ascending columns) :
    columns = columns.filter (fun c => c.source.position < position) ++ columnsAt columns position ++
      columns.filter fun c => position < c.source.position := by
  have hothers : columns.filter (fun c => position ≤ c.source.position) =
      columnsAt columns position ++ columns.filter fun c => position < c.source.position := by
    rw [eq_before_append (position + 1) (h.filter fun c => position ≤ c.source.position),
      List.filter_filter, List.filter_filter]
    congr 1
    · refine List.filter_congr fun c _ => ?_
      rw [Bool.eq_iff_iff]
      simp only [Bool.and_eq_true, decide_eq_true_eq, beq_iff_eq]
      omega
    · refine List.filter_congr fun c _ => ?_
      rw [Bool.eq_iff_iff]
      simp only [Bool.and_eq_true, decide_eq_true_eq]
      omega
  rw [List.append_assoc, ← hothers]
  exact eq_before_append position h

/-! ## The points -/

/-- The point of a position is its first column, behind just the columns of smaller positions. -/
theorem pointAt_eq_ok_iff {position : Nat} {entity : Entity} {point : SplitPoint}
    (h : Ascending columns) :
    pointAt columns position entity = .ok point ↔
      ∃ c, (columnsAt columns position).head? = some c ∧
        point = ⟨position, c.output, columns.countP fun c => c.source.position < position⟩ := by
  have hbefore : ∀ d ∈ columns.filter (fun d => d.source.position < position),
      d.source.position ≠ position := by
    intro d hd
    have hlt := (List.mem_filter.1 hd).2
    simp only [decide_eq_true_eq] at hlt
    omega
  have hbehind : ∀ d ∈ columns.filter (fun d => position < d.source.position),
      d.source.position ≠ position := by
    intro d hd
    have hlt := (List.mem_filter.1 hd).2
    simp only [decide_eq_true_eq] at hlt
    omega
  have hblock : ∀ d ∈ columnsAt columns position, d.source.position = position :=
    fun _ => position_of_mem_columnsAt
  rw [List.countP_eq_length_filter]
  conv_lhs => rw [eq_blocks_of_ascending position h]
  exact pointAt_eq_ok hbefore hblock hbehind

theorem pointAt_eq_error_iff {position : Nat} {entity : Entity} {e : Error} :
    pointAt columns position entity = .error e ↔
      columnsAt columns position = [] ∧ e = .uncoveredJoin entity.name := by
  constructor
  · intro herror
    rw [pointAt] at herror
    split at herror
    · next hnone =>
      rw [List.findIdx?_eq_none_iff] at hnone
      rw [columnsAt, List.filter_eq_nil_iff]
      refine ⟨fun c hc => ?_, (Except.error.inj herror).symm⟩
      rw [hnone c hc]
      exact Bool.false_ne_true
    · next offset hoffset =>
      -- an index that was found is inside the list
      obtain ⟨hinside, -⟩ := List.findIdx?_eq_some_iff_getElem.1 hoffset
      rw [List.getElem?_eq_getElem hinside] at herror
      cases herror
  · rintro ⟨hnil, rfl⟩
    have hnone : columns.findIdx? (fun c => c.source.position == position) = none := by
      rw [List.findIdx?_eq_none_iff]
      intro c hc
      simpa using List.filter_eq_nil_iff.1 hnil c hc
    rw [pointAt, hnone]

theorem getElem?_joined {i : Nat} {entry : Entity × Nat} :
    (scope.entities.zipIdx.drop 1)[i]? = some entry ↔
      scope.entities[i + 1]? = some entry.1 ∧ i + 1 = entry.2 := by
  obtain ⟨entity, position⟩ := entry
  rw [List.getElem?_drop, List.getElem?_zipIdx, Nat.add_comm 1 i]
  simp

/-- There is one point for each joined table, if each has columns. -/
theorem points_eq_ok {points : List SplitPoint} (h : Ascending columns)
    (hpoints : SelectList.points scope columns = .ok points) :
    points.length = scope.entities.length - 1 ∧ ∀ i point, points[i]? = some point →
      ∃ c, (columnsAt columns (i + 1)).head? = some c ∧
        point = ⟨i + 1, c.output, columns.countP fun c => c.source.position < i + 1⟩ := by
  have hall : List.Forall₂ (fun entry point => pointAt columns entry.2 entry.1 = .ok point)
      (scope.entities.zipIdx.drop 1) points := mapM_eq_ok_iff.1 hpoints
  refine ⟨?_, fun i point hpoint => ?_⟩
  · rw [← hall.length_eq, List.length_drop, List.length_zipIdx]
  · obtain ⟨hi, rfl⟩ := List.getElem?_eq_some_iff.1 hpoint
    have hi' : i < (scope.entities.zipIdx.drop 1).length := hall.length_eq ▸ hi
    obtain ⟨-, hposition⟩ := getElem?_joined.1 (List.getElem?_eq_getElem hi')
    rw [hposition]
    exact (pointAt_eq_ok_iff h).1 (hall.get hi' hi)

/-- Otherwise the error is the first table without columns. -/
theorem points_eq_error {e : Error} (h : Ascending columns)
    (hpoints : SelectList.points scope columns = .error e) :
    ∃ position entity, 1 ≤ position ∧ scope.entities[position]? = some entity ∧
      columnsAt columns position = [] ∧
      (∀ earlier, 1 ≤ earlier → earlier < position → columnsAt columns earlier ≠ []) ∧
      e = .uncoveredJoin entity.name := by
  obtain ⟨i, ⟨entity, position⟩, hentry, herror, hbefore⟩ := mapM_eq_error_iff.1 hpoints
  -- the first item that fails is the table one position behind its index
  obtain ⟨hentity, rfl⟩ := getElem?_joined.1 hentry
  obtain ⟨hnil, he⟩ := pointAt_eq_error_iff.1 herror
  refine ⟨i + 1, entity, Nat.succ_pos i, hentity, hnil, ?_, he⟩
  intro earlier hone hlt hnone
  have hinside : earlier < scope.entities.length := by
    have hi := (List.getElem?_eq_some_iff.1 hentity).1
    omega
  have hback : earlier - 1 + 1 = earlier := Nat.sub_add_cancel hone
  obtain ⟨point, hpoint⟩ := hbefore (earlier - 1) (scope.entities[earlier], earlier) (by omega)
    (getElem?_joined.2 ⟨by rw [hback, List.getElem?_eq_getElem hinside], hback⟩)
  obtain ⟨c, hc, -⟩ := (pointAt_eq_ok_iff h).1 hpoint
  rw [hnone] at hc
  cases hc

/-! ## The select list -/

/-- A selected column begins with the column and ends in the name that it has in result rows. -/
theorem tokens_named (scope : Scope) (c : SelectedColumn) :
    scope.column c.source <+: c.tokens scope ∧ (c.tokens scope).getLast? = some (.ident c.output) := by
  rw [SelectedColumn.tokens]
  constructor
  · exact List.prefix_append _ _
  · split
    · next heq =>
      rw [List.append_nil, ← heq, Scope.column]
      split <;> rfl
    · rw [← List.append_assoc, List.getLast?_concat]

theorem ofPicks_of_requested {picks : Option (List Pick)} (h : requested scope picks = .ok columns) :
    ofPicks scope picks = (points scope (grouped scope columns)).map fun points =>
      { tokens := Tokens.separated ((grouped scope columns).map (·.tokens scope))
        columns := grouped scope columns
        split := ⟨points⟩ } := by
  rw [ofPicks, h]
  rfl

theorem outcome_ofPicks (scope : Scope) (picks : Option (List Pick)) :
    scope.Outcome picks (ofPicks scope picks) := by
  cases hrequested : requested scope picks with
  | error e =>
    rw [ofPicks, hrequested]
    exact .refused (requested_eq_iff.1 hrequested)
  | ok columns =>
    have hasked := requested_eq_iff.1 hrequested
    have hascending := ascending_grouped scope columns
    have hstable := stable_grouped hasked.position_lt
    rw [ofPicks_of_requested hrequested]
    cases hpoints : points scope (grouped scope columns) with
    | error e =>
      obtain ⟨position, entity, hjoined, hentity, hnone, hbefore, rfl⟩ :=
        points_eq_error hascending hpoints
      refine .uncovered (Scope.admits_iff.2 ⟨columns, hasked⟩) hjoined hentity ?_ ?_
      · rw [hasked.covers_iff, ← hstable]
        exact not_not_intro hnone
      · intro earlier hone hlt
        rw [hasked.covers_iff, ← hstable]
        exact hbefore earlier hone hlt
    | ok points =>
      obtain ⟨hjoined, hpoint⟩ := points_eq_ok hascending hpoints
      exact .made hasked
        { permuted := perm_grouped hasked.position_lt
          ascending := hascending
          stable := hstable
          tokens := rfl
          named := fun c _ => tokens_named scope c
          joined := hjoined
          points := hpoint }

/-- A request has a select list if it names mapped members only, takes at least one unless it is left out,
and takes a column from each joined table. The list is the columns that are asked for, sorted by table; the
error is that of the first item that is no mapped member, or else of the first table that is left out. -/
theorem ofPicks_outcome (scope : Scope) (picks : Option (List Pick)) :
    ((∃ list, ofPicks scope picks = .ok list) ↔ scope.Admits picks ∧
      ∀ position, 1 ≤ position → position < scope.entities.length → scope.Covers picks position) ∧
    scope.Outcome picks (ofPicks scope picks) := by
  have houtcome := outcome_ofPicks scope picks
  refine ⟨?_, houtcome⟩
  constructor
  · rintro ⟨list, hlist⟩
    rw [hlist] at houtcome
    cases houtcome with
    | made asked lays =>
      refine ⟨Scope.admits_iff.2 ⟨_, asked⟩, fun position hone hlt => ?_⟩
      -- the point of the position is at one of its columns
      have hinside : position - 1 < list.split.points.length := by
        rw [lays.joined]
        omega
      obtain ⟨c, hc, -⟩ := lays.points _ _ (List.getElem?_eq_getElem hinside)
      rw [Nat.sub_add_cancel hone, lays.stable] at hc
      rw [asked.covers_iff]
      intro hnil
      rw [hnil] at hc
      cases hc
  · rintro ⟨hadmitted, hcovered⟩
    cases hresult : ofPicks scope picks with
    | ok list => exact ⟨list, rfl⟩
    | error e =>
      rw [hresult] at houtcome
      cases houtcome with
      | refused asked =>
        obtain ⟨columns, hcolumns⟩ := Scope.admits_iff.1 hadmitted
        rw [← requested_eq_iff] at asked hcolumns
        rw [asked] at hcolumns
        cases hcolumns
      | uncovered _ joined entity missing _ =>
        exact absurd (hcovered _ joined (List.getElem?_eq_some_iff.1 entity).1) missing

/-- Columns of two tables in turns: those of the root come first, in their order, and the second table begins
behind them. -/
example :
    (ofPicks Enrolment.clubs.scope (some [
      ⟨.member ⟨1, "ClubId"⟩, some "Club"⟩, ⟨.member ⟨0, "Name"⟩, none⟩,
      ⟨.member ⟨1, "Id"⟩, none⟩, ⟨.member ⟨0, "Id"⟩, none⟩])).map
        (fun list => (list.columns.map (·.output), list.split.points)) =
      .ok (["Name", "Id", "Club", "Id"], [⟨1, "Club", 2⟩]) := rfl

end SelectList

end Rowgraph
