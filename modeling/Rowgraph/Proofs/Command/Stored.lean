import Mathlib.Data.List.Nodup
import Rowgraph.Proofs.Command.Placeholders

/-!
# Stored rows

What an insertion stores, read off the statement alone: each column of its column list takes the value of
the placeholder that stands in the same place, or else the cell of the selected column in a shipped row
(`Command.storedRows?`). A select list is read the same way; an item yields its column, under the name behind
AS or under the column's own (`SelectList.readBack?`). The lists are written by different functions, one by
the names of the columns and one by the names of the members. A row that is stored and read back has the
item's values under the names of the members all the same, and shipping the item with others stores the same
row (`insert_readBack`).
-/

set_option autoImplicit false

namespace Rowgraph

/-! ## Reading lists -/

namespace Tokens

/-- The tokens less the spaces between them. -/
def marks (ts : List Token) : List Token := ts.filter fun t => t != .word .space

/-- The items between the commas of a list. -/
def items (ts : List Token) : List (List Token) :=
  if ts.isEmpty then [] else ts.splitOn (.word .comma)

/-- What stands in parentheses, and what follows them. -/
def inner? : List Token → Option (List Token × List Token)
  | .word .lparen :: ts =>
    match ts.dropWhile fun t => t != .word .rparen with
    | [] => none
    | _ :: rest => some (ts.takeWhile fun t => t != .word .rparen, rest)
  | _ => none

/-- The column that is an item of a list. -/
def column? : List Token → Option String
  | [.ident name] => some name
  | _ => none

/-- The columns of a list. -/
def columns? (ts : List Token) : Option (List String) := (items ts).mapM column?

/-- The column and the name that an item of a select list gives it. -/
def selected? : List Token → Option (String × String)
  | [.alias _, .word .dot, .ident column] => some (column, column)
  | [.alias _, .word .dot, .ident column, .word .as, .ident name] => some (column, name)
  | _ => none

/-- What is read as an item is something, and no comma is in it. -/
theorem isItem_of_selected? {ts : List Token} {item : String × String} (h : selected? ts = some item) :
    ts ≠ [] ∧ Token.word .comma ∉ ts := by
  rw [selected?.eq_def] at h
  split at h
  · simp
  · simp
  · cases h

theorem marks_append (ts us : List Token) : marks (ts ++ us) = marks ts ++ marks us :=
  List.filter_append ..

theorem marks_cons_of_ne {t : Token} (h : t ≠ .word .space) (ts : List Token) :
    marks (t :: ts) = t :: marks ts := List.filter_cons_of_pos (by simpa using h)

theorem marks_space (ts : List Token) : marks (.word .space :: ts) = marks ts :=
  List.filter_cons_of_neg (by simp)

theorem marks_separated (its : List (List Token)) :
    marks (separated its) = [Token.word .comma].intercalate (its.map marks) := by
  induction its with
  | nil => rfl
  | cons item rest ih =>
    cases rest with
    | nil => simp [separated, List.intercalate]
    | cons next rest =>
      rw [separated, marks_append, marks_cons_of_ne (by simp), marks_space, ih, List.map_cons,
        List.map_cons, List.map_cons, List.intercalate_cons_cons, List.append_assoc]
      rfl

/-- A list is read as its items, unless there is nothing in an item or a comma. -/
theorem items_separated {its : List (List Token)} (hne : ∀ item ∈ its, marks item ≠ [])
    (hcomma : ∀ item ∈ its, Token.word .comma ∉ marks item) :
    items (marks (separated its)) = its.map marks := by
  rw [marks_separated, items]
  cases its with
  | nil => rfl
  | cons item rest =>
    rw [if_neg, List.splitOn_intercalate]
    · rintro _ hts
      obtain ⟨item', hitem, rfl⟩ := List.mem_map.1 hts
      exact hcomma item' hitem
    · exact List.cons_ne_nil _ _
    -- no tokens at all would be read as no items, and not as one that is empty
    · have hitem := hne item List.mem_cons_self
      rw [List.isEmpty_iff]
      cases rest with
      | nil => simpa [List.intercalate] using hitem
      | cons next rest =>
        rw [List.map_cons, List.map_cons, List.intercalate_cons_cons, List.append_assoc]
        exact List.append_ne_nil_of_left_ne_nil hitem _

/-- Parentheses are read up to the first that closes. -/
theorem inner?_parenthesized {ts : List Token} (h : Token.word .rparen ∉ marks ts)
    (rest : List Token) : inner? (marks (parenthesized ts) ++ rest) = some (marks ts, rest) := by
  have hall : ∀ t ∈ marks ts, (t != Token.word .rparen) = true := by
    intro t ht
    rw [bne_iff_ne]
    rintro rfl
    exact h ht
  have hmarks : marks (parenthesized ts) ++ rest =
      .word .lparen :: (marks ts ++ .word .rparen :: rest) := by
    rw [parenthesized, List.cons_append, marks_cons_of_ne (by simp), marks_append, List.cons_append,
      List.append_assoc]
    rfl
  rw [hmarks, inner?, List.dropWhile_append_of_pos hall, List.takeWhile_append_of_pos hall]
  simp

end Tokens

/-! ## Reading statements -/

/-- The value of an item of a list of values. -/
def Parameters.itemValue? (ps : Parameters) : List Token → Option Value
  | [t] => t.placeholder?.bind ps.value?
  | _ => none

/-- The cells of some columns, row by row. -/
def TableParameter.cells? (t : TableParameter) (columns : List String) : Option (List (List Value)) :=
  t.rows.mapM fun row => columns.mapM fun column => (t.columns.zip row).lookup column

namespace Command

/-- The values that an insertion has for each of its rows, read off what follows its columns. -/
def values? (c : Command) : List Token → Option (List (List Value))
  | .word .values :: ts =>
    match Tokens.inner? ts with
    | some (list, []) => ((Tokens.items list).mapM c.params.itemValue?).map ([·])
    | _ => none
  | .word .select :: ts =>
    match ts.dropWhile (fun t => t != .word .fromKw), c.table with
    | [.word .fromKw, t], some rows =>
      if t = rows.placeholder then
        (Tokens.columns? (ts.takeWhile fun t => t != .word .fromKw)).bind rows.cells?
      else none
    | _, _ => none
  | _ => none

/-- The rows that an insertion stores, each column with its value. -/
def storedRows? (c : Command) : Option (List (List (String × Value))) :=
  match Tokens.marks c.tokens with
  | .word .insert :: .word .into :: .table _ _ _ :: ts => do
    let (list, ts) ← Tokens.inner? ts
    let columns ← Tokens.columns? list
    (← c.values? ts).mapM fun values =>
      if columns.length = values.length then some (columns.zip values) else none
  | _ => none

end Command

/-- The row that a select list makes of a stored one. -/
def SelectList.readBack? (list : SelectList) (stored : String → Value) : Option Row :=
  ((Tokens.items (Tokens.marks list.tokens)).mapM Tokens.selected?).map fun selected =>
    ⟨selected.map fun (column, name) => (name, stored column)⟩

/-! ## What is read in the parts of an insertion -/

section Lists

variable {α β : Type}

/-- A list whose items are all read. -/
theorem mapM_eq_some_of_forall₂ {f : α → Option β} {as : List α} {bs : List β}
    (h : List.Forall₂ (fun a b => f a = some b) as bs) : as.mapM f = some bs := by
  induction h with
  | nil => rfl
  | cons ha _ ih =>
    rw [List.mapM_cons, ha, ih]
    rfl

theorem mapM_eq_some {f : α → Option β} {g : α → β} {as : List α} (h : ∀ a ∈ as, f a = some (g a)) :
    as.mapM f = some (as.map g) :=
  mapM_eq_some_of_forall₂ (List.forall₂_map_right_iff.2 (List.forall₂_same.2 h))

/-- Under keys that are all different each value is found. -/
theorem lookup_map {key : α → String} {value : α → β} {as : List α} (h : (as.map key).Nodup) {a : α}
    (ha : a ∈ as) : (as.map fun a => (key a, value a)).lookup (key a) = some (value a) := by
  induction as with
  | nil => cases ha
  | cons b as ih =>
    rw [List.map_cons, List.nodup_cons] at h
    rw [List.map_cons, List.lookup_cons]
    rcases List.mem_cons.1 ha with rfl | ha
    · rw [beq_self_eq_true]
    · have hne : (key a == key b) = false :=
        beq_eq_false_iff_ne.2 fun heq => h.1 (heq ▸ List.mem_map_of_mem ha)
      rw [hne]
      exact ih h.2 ha

end Lists

theorem Tokens.mem_separated {t : Token} {its : List (List Token)} (h : t ∈ separated its) :
    t = .word .comma ∨ t = .word .space ∨ ∃ item ∈ its, t ∈ item := by
  induction its with
  | nil => cases h
  | cons item rest ih =>
    cases rest with
    | nil => exact Or.inr (Or.inr ⟨item, List.mem_cons_self, h⟩)
    | cons next rest =>
      rw [separated] at h
      rcases List.mem_append.1 h with h | h
      · exact Or.inr (Or.inr ⟨item, List.mem_cons_self, h⟩)
      · rcases List.mem_cons.1 h with h | h
        · exact Or.inl h
        · rcases List.mem_cons.1 h with h | h
          · exact Or.inr (Or.inl h)
          · rcases ih h with h | h | ⟨item', hitem, h⟩
            · exact Or.inl h
            · exact Or.inr (Or.inl h)
            · exact Or.inr (Or.inr ⟨item', List.mem_cons_of_mem _ hitem, h⟩)

section Singles

variable {α : Type} {f : α → Token} {as : List α} (h : ∀ a ∈ as, ∀ w, f a ≠ .word w)
include h

/-- In a list of tokens that are no words, no word stands but the comma. -/
theorem Tokens.not_mem_singles {w : Word} (hw : w ≠ .comma) :
    Token.word w ∉ marks (separated (as.map fun a => [f a])) := by
  intro hmem
  obtain ⟨hmem, hspace⟩ := List.mem_filter.1 hmem
  rcases mem_separated hmem with heq | heq | ⟨item, hitem, hmem⟩
  · cases heq
    exact hw rfl
  · rw [heq] at hspace
    simp at hspace
  · obtain ⟨a, ha, rfl⟩ := List.mem_map.1 hitem
    exact h a ha w (List.mem_singleton.1 hmem).symm

/-- Such a list is read as its tokens. -/
theorem Tokens.items_singles :
    items (marks (separated (as.map fun a => [f a]))) = as.map fun a => [f a] := by
  have hmarks : ∀ a ∈ as, marks [f a] = [f a] := fun a ha => marks_cons_of_ne (h a ha .space) []
  rw [items_separated, List.map_map]
  · exact List.map_congr_left hmarks
  · intro item hitem
    obtain ⟨a, ha, rfl⟩ := List.mem_map.1 hitem
    rw [hmarks a ha]
    exact List.cons_ne_nil _ _
  · intro item hitem
    obtain ⟨a, ha, rfl⟩ := List.mem_map.1 hitem
    rw [hmarks a ha]
    exact fun hmem => h a ha .comma (List.mem_singleton.1 hmem).symm

end Singles

namespace Member

theorem not_mem_columnList {w : Word} (hw : w ≠ .comma) (ms : List Member) :
    Token.word w ∉ Tokens.marks (columnList none ms) :=
  Tokens.not_mem_singles (f := fun m : Member => .ident m.columnName) (fun _ _ _ => nofun) hw

theorem columns?_columnList (ms : List Member) :
    Tokens.columns? (Tokens.marks (columnList none ms)) = some (ms.map columnName) := by
  have hitems : Tokens.items (Tokens.marks (columnList none ms)) =
      ms.map fun m => [.ident m.columnName] := Tokens.items_singles fun _ _ _ => nofun
  rw [Tokens.columns?, hitems, List.mapM_map]
  exact mapM_eq_some fun m _ => rfl

end Member

/-- An insertion stores the values behind its head in the columns of the head. -/
theorem storedRows?_insertHead {c : Command} {e : Entity} {ms : List Member} {ts : List Token}
    {rows : List (List Value)} (htokens : c.tokens = e.insertHead ms ++ ts)
    (hvalues : c.values? (Tokens.marks ts) = some rows)
    (hlength : ∀ values ∈ rows, values.length = ms.length) :
    c.storedRows? = some (rows.map ((ms.map Member.columnName).zip ·)) := by
  have hmarks : Tokens.marks c.tokens = .word .insert :: .word .into :: e.reference ::
      (Tokens.marks (Tokens.parenthesized (Member.columnList none ms)) ++ Tokens.marks ts) := by
    rw [htokens, Entity.insertHead, Tokens.marks_append, Tokens.marks_append, Tokens.marks_append]
    simp only [List.append_assoc]
    rfl
  have hinner := Tokens.inner?_parenthesized (Member.not_mem_columnList (by decide) ms) (Tokens.marks ts)
  rw [Command.storedRows?, hmarks, Entity.reference]
  dsimp only
  rw [hinner]
  change (Tokens.columns? (Tokens.marks (Member.columnList none ms))).bind _ = _
  rw [Member.columns?_columnList]
  change (c.values? (Tokens.marks ts)).bind _ = _
  rw [hvalues]
  refine mapM_eq_some fun values hvalues => ?_
  rw [if_pos]
  rw [List.length_map, hlength values hvalues]

/-! ## Values that are bound -/

theorem Parameters.extends_bindAll (ps : Parameters) (pairs : List (Member × Value)) :
    (ps.bindAll pairs).2.Extends ps := by
  induction pairs generalizing ps with
  | nil => exact .refl ps
  | cons pair rest ih =>
    rw [bindAll_cons]
    exact (ih _).trans (ps.extends_bind pair.1.name pair.2 (some pair.1))

/-- Is this the assignment of a value to a member? -/
def Assignment.Assigns (ps : Parameters) (a : Assignment) (pair : Member × Value) : Prop :=
  a.member = pair.1 ∧ a.placeholder.placeholder?.bind ps.value? = some pair.2

/-- Each member gets a placeholder that has its value, whatever is bound later. -/
theorem Parameters.assigns_bindAll {later : Parameters} (pairs : List (Member × Value)) :
    ∀ ps : Parameters, later.Extends (ps.bindAll pairs).2 →
      List.Forall₂ (Assignment.Assigns later) (ps.bindAll pairs).1 pairs := by
  induction pairs with
  | nil =>
    intro ps _
    exact .nil
  | cons pair rest ih =>
    intro ps hlater
    obtain ⟨m, value⟩ := pair
    rw [bindAll_cons] at hlater ⊢
    refine .cons ⟨rfl, ?_⟩ (ih _ hlater)
    -- the name was free when it was taken, and what is bound behind it has other names
    have hbind := value?_of_extends (hlater.trans (extends_bindAll _ rest))
      (ps.value?_bind m.name value (some m))
    rw [bind, placeholder?_placeholder]
    exact hbind

theorem Assignment.Assigns.ne_word {ps : Parameters} {a : Assignment} {pair : Member × Value}
    (h : a.Assigns ps pair) (w : Word) : a.placeholder ≠ .word w := by
  intro hword
  have hvalue := h.2
  rw [hword] at hvalue
  cases hvalue

theorem members_of_assigns {ps : Parameters} {as : List Assignment} {pairs : List (Member × Value)}
    (h : List.Forall₂ (Assignment.Assigns ps) as pairs) :
    Assignment.members as = pairs.map (·.1) := by
  induction h with
  | nil => rfl
  | cons ha _ ih =>
    rw [Assignment.members, List.map_cons, List.map_cons, ha.1]
    exact congrArg _ ih

/-- The values of an insertion are those that are assigned. -/
theorem values?_valuesClause {c : Command} {as : List Assignment} {pairs : List (Member × Value)}
    (h : List.Forall₂ (Assignment.Assigns c.params) as pairs) :
    c.values? (Tokens.marks (Entity.valuesClause as)) = some [pairs.map (·.2)] := by
  have hword : ∀ a ∈ as, ∀ w, a.placeholder ≠ .word w := by
    intro a ha w
    obtain ⟨pair, -, hassigns⟩ := exists_of_forall₂ h ha
    exact hassigns.ne_word w
  have hclause : Tokens.marks (Entity.valuesClause as) = .word .values ::
      (Tokens.marks (Tokens.parenthesized (Assignment.placeholders as)) ++ []) := by
    rw [Entity.valuesClause, Tokens.marks_append, List.append_nil]
    rfl
  have hinner : Token.word .rparen ∉ Tokens.marks (Assignment.placeholders as) :=
    Tokens.not_mem_singles hword (by decide)
  have hitems : Tokens.items (Tokens.marks (Assignment.placeholders as)) =
      as.map fun a => [a.placeholder] := Tokens.items_singles hword
  have hvalues : as.mapM (c.params.itemValue? ∘ fun a => [a.placeholder]) = some (pairs.map (·.2)) :=
    mapM_eq_some_of_forall₂ (List.forall₂_map_right_iff.2 (h.imp fun _ _ hassigns => hassigns.2))
  rw [hclause, Command.values?, Tokens.inner?_parenthesized hinner]
  dsimp only
  rw [hitems, List.mapM_map, hvalues]
  rfl

/-! ## Shipped rows -/

/-- The values of an insertion of shipped rows are their cells. -/
theorem values?_shipped {c : Command} {rows : TableParameter} (htable : c.table = some rows)
    (ms : List Member) :
    c.values? (Tokens.marks (Tokens.spaced .select ++ Member.columnList none ms ++
      Tokens.clause .fromKw [rows.placeholder])) = rows.cells? (ms.map Member.columnName) := by
  have hne : ∀ t ∈ Tokens.marks (Member.columnList none ms), (t != Token.word .fromKw) = true := by
    intro t ht
    rw [bne_iff_ne]
    rintro rfl
    exact Member.not_mem_columnList (by decide) ms ht
  have hmarks : Tokens.marks (Tokens.spaced .select ++ Member.columnList none ms ++
      Tokens.clause .fromKw [rows.placeholder]) =
        .word .select :: (Tokens.marks (Member.columnList none ms) ++ [.word .fromKw, rows.placeholder]) := by
    rw [Tokens.marks_append, Tokens.marks_append]
    rfl
  rw [hmarks, Command.values?, List.dropWhile_append_of_pos hne, List.takeWhile_append_of_pos hne, htable]
  simp [Member.columns?_columnList]

/-- In the rows that are made of items, each item has its cells. -/
theorem cells?_ofRows {e : Entity} {ms : List Member} {items : List Row} {rows : TableParameter}
    (h : TableParameter.ofRows e ms items = .ok rows) (hcolumns : (ms.map Member.columnName).Nodup) :
    rows.cells? (ms.map Member.columnName) =
      some (items.map fun item => ms.map fun m => item.findD m.name) := by
  obtain ⟨typeName, -, h⟩ := bind_eq_ok.1 h
  split at h
  · cases h
  · cases h
    -- the names and the cells of a shipped row come from one list of members
    rw [TableParameter.cells?, List.mapM_map]
    refine mapM_eq_some fun item _ => ?_
    rw [Function.comp_apply, List.mapM_map, List.zip_map']
    exact mapM_eq_some fun m hm => lookup_map hcolumns hm

/-! ## Insertions -/

namespace Entity

/-- The row of an item: the columns that an insertion writes, with the item's values. -/
def storedRow (e : Entity) (item : Row) : List (String × Value) :=
  e.insertable.map fun m => (m.columnName, item.findD m.name)

theorem zip_columns (e : Entity) (item : Row) :
    (e.insertable.map Member.columnName).zip (e.insertable.map fun m => item.findD m.name) =
      e.storedRow item := List.zip_map'

theorem nodup_insertable {e : Entity} (h : (e.mapped.map Member.columnName).Nodup) :
    (e.insertable.map Member.columnName).Nodup := h.sublist (List.filter_sublist.map _)

end Entity

theorem insert_stores {g : Generator} {e : Entity} {item : Row} {c : Command}
    (h : g.insert e item = .ok c) : c.storedRows? = some [e.storedRow item] := by
  obtain ⟨as, ps, has, rfl⟩ := insert_eq_ok.1 h
  obtain ⟨-, hbind⟩ := yields_ofItem.1 has
  have hassigns := Parameters.assigns_bindAll (e.insertable.map fun m => (m, item.findD m.name))
    g.unbound (.refl _)
  rw [hbind] at hassigns
  have hmembers := members_of_assigns hassigns
  rw [List.map_map, Function.comp_def, List.map_id'] at hmembers
  have hvalues := values?_valuesClause (c := { tokens := e.insertion as, params := ps }) hassigns
  rw [List.map_map] at hvalues
  rw [storedRows?_insertHead (by rw [Entity.insertion, hmembers]) hvalues]
  · rw [List.map_singleton]
    exact congrArg (fun row => some [row]) (e.zip_columns item)
  · intro values hin
    rw [List.mem_singleton.1 hin, List.length_map]

theorem bulkInsert_stores {g : Generator} {e : Entity} {items : List Row} {c : Command}
    (h : g.bulkInsert e items = .ok c) (hcolumns : (e.mapped.map Member.columnName).Nodup) :
    c.storedRows? = some (items.map e.storedRow) := by
  obtain ⟨rows, hrows, hc⟩ := bulkInsert_eq_ok.1 h
  have htable : c.table = some rows := by rw [hc]
  have htokens : c.tokens = e.insertHead e.insertable ++ (Tokens.spaced .select ++
      Member.columnList none e.insertable ++ Tokens.clause .fromKw [rows.placeholder]) := by
    rw [hc, List.append_assoc, List.append_assoc, List.append_assoc]
  have hvalues := values?_shipped htable e.insertable
  rw [cells?_ofRows hrows (Entity.nodup_insertable hcolumns)] at hvalues
  rw [storedRows?_insertHead htokens hvalues]
  · rw [List.map_map]
    exact congrArg some (List.map_congr_left fun item _ => e.zip_columns item)
  · intro values hin
    obtain ⟨item, -, rfl⟩ := List.mem_map.1 hin
    rw [List.length_map]

/-! ## Reading back -/

section Selections

variable (e : Entity) (qualifier : String)

/-- The column of a member in a select list over an entity under an alias. -/
def SelectedColumn.ofMember (m : Member) : SelectedColumn := ⟨⟨0, e, m⟩, m.name⟩

theorem grouped_allColumns :
    SelectList.grouped ⟨[e], some [qualifier]⟩ (SelectList.allColumns ⟨[e], some [qualifier]⟩) =
      e.mapped.map (SelectedColumn.ofMember e) := by
  have hall : SelectList.allColumns ⟨[e], some [qualifier]⟩ = e.mapped.map (SelectedColumn.ofMember e) :=
    List.append_nil _
  rw [SelectList.grouped, List.length_singleton, List.range_one, List.flatMap_singleton, hall]
  refine List.filter_eq_self.2 fun c hc => ?_
  obtain ⟨m, -, rfl⟩ := List.mem_map.1 hc
  rfl

/-- An item of a select list is the column of its member under the member's name. -/
theorem selected?_tokens (m : Member) :
    Tokens.selected? (Tokens.marks ((SelectedColumn.ofMember e m).tokens ⟨[e], some [qualifier]⟩)) =
      some (m.columnName, m.name) := by
  rw [SelectedColumn.tokens]
  split
  · next hname =>
    exact congrArg (fun name => some (m.columnName, name)) hname
  · rfl

/-- Without a selection, every mapped member is read from its column, under its own name. -/
theorem readBack?_ofPicks :
    ∃ list, SelectList.ofPicks ⟨[e], some [qualifier]⟩ none = .ok list ∧ ∀ stored,
      list.readBack? stored = some ⟨e.mapped.map fun m => (m.name, stored m.columnName)⟩ := by
  have hitem : ∀ item ∈ (e.mapped.map (SelectedColumn.ofMember e)).map
      (SelectedColumn.tokens ⟨[e], some [qualifier]⟩),
      Tokens.marks item ≠ [] ∧ Token.word .comma ∉ Tokens.marks item := by
    intro item hitem
    rw [List.map_map] at hitem
    obtain ⟨m, -, rfl⟩ := List.mem_map.1 hitem
    exact Tokens.isItem_of_selected? (selected?_tokens e qualifier m)
  have hread : (Tokens.items (Tokens.marks (Tokens.separated
      ((e.mapped.map (SelectedColumn.ofMember e)).map
        (SelectedColumn.tokens ⟨[e], some [qualifier]⟩))))).mapM Tokens.selected? =
        some (e.mapped.map fun m => (m.columnName, m.name)) := by
    rw [Tokens.items_separated (fun item h => (hitem item h).1) (fun item h => (hitem item h).2),
      List.map_map, List.map_map, List.mapM_map]
    exact mapM_eq_some fun m _ => selected?_tokens e qualifier m
  refine ⟨_, rfl, fun stored => ?_⟩
  rw [SelectList.readBack?, grouped_allColumns, hread, Option.map_some, List.map_map]
  rfl

end Selections

/-- What is written is what is read back. An item has one row, and both an insertion of the item and one of
items among which it is store that row for it; reading the row gives the item's values under the names of
the members, in their order, whatever the database has put into the columns that were not written. -/
theorem insert_readBack {e : Entity} (hnames : (e.mapped.map Member.name).Nodup)
    (hcolumns : (e.mapped.map Member.columnName).Nodup) (g : Generator) (item : Row) (qualifier : String)
    (database : String → Value) :
    ∃ row : List (String × Value),
      (∀ c, g.insert e item = .ok c → c.storedRows? = some [row]) ∧
      (∀ (items : List Row) (c : Command), g.bulkInsert e items = .ok c →
        ∃ rows : List (List (String × Value)), c.storedRows? = some rows ∧
          rows.length = items.length ∧ ∀ i : Nat, items[i]? = some item → rows[i]? = some row) ∧
      ∃ list back, SelectList.ofPicks ⟨[e], some [qualifier]⟩ none = .ok list ∧
        list.readBack? (fun column => (row.lookup column).getD (database column)) = some back ∧
        (e.insertable.map fun m => (m.name, item.findD m.name)).Sublist back.columns ∧
        ∀ m ∈ e.insertable, back.find? m.name = some (item.findD m.name) := by
  refine ⟨e.storedRow item, fun c h => insert_stores h, fun items c h => ?_, ?_⟩
  · refine ⟨_, bulkInsert_stores h hcolumns, List.length_map _, fun i hi => ?_⟩
    rw [List.getElem?_map, hi]
    rfl
  -- the list of the selection goes by mapped members, the one of the insertion by insertable ones
  · obtain ⟨list, hlist, hread⟩ := readBack?_ofPicks e qualifier
    have hstored : ∀ m ∈ e.insertable,
        ((e.storedRow item).lookup m.columnName).getD (database m.columnName) = item.findD m.name := by
      intro m hm
      rw [Entity.storedRow, lookup_map (Entity.nodup_insertable hcolumns) hm]
      rfl
    refine ⟨list, _, hlist, hread _, ?_, fun m hm => ?_⟩
    · rw [← List.map_congr_left fun m hm => congrArg (Prod.mk m.name) (hstored m hm)]
      exact List.filter_sublist.map _
    · rw [Row.find?, lookup_map hnames (List.mem_of_mem_filter hm), hstored m hm]

namespace Enrolment

/-- Trophies, two of whose columns go by the names of each other's members. -/
def trophy : Entity where
  name := "Trophy"
  tableType := some "TrophyRows"
  members := [{ name := "Id", identity := true }, { name := "Name", column := some "Title" },
    { name := "Note", notMapped := true }, { name := "Title", column := some "Name" }, { name := "Year" }]

/-- A trophy without a year. -/
def cup : Row := ⟨[("Name", .text "Cup"), ("Title", .text "Winner")]⟩

end Enrolment

open Enrolment in
theorem insert_readBack_trophy :
    (trophy.mapped.map Member.name).Nodup ∧ (trophy.mapped.map Member.columnName).Nodup ∧
      ∃ (c d : Command) (row : List (String × Value)) (rows : List (List (String × Value))),
        ({} : Generator).insert trophy cup = .ok c ∧ c.storedRows? = some [row] ∧
        ({} : Generator).bulkInsert trophy [.empty, cup] = .ok d ∧ d.storedRows? = some rows ∧
        rows[1]? = some row ∧
        ∃ list back, SelectList.ofPicks ⟨[trophy], some ["trph1"]⟩ none = .ok list ∧
          list.readBack? (fun column => (row.lookup column).getD (.int 7)) = some back ∧
          [("Name", .text "Cup"), ("Title", .text "Winner"), ("Year", .null)].Sublist back.columns := by
  have hnames : (trophy.mapped.map Member.name).Nodup := by decide
  have hcolumns : (trophy.mapped.map Member.columnName).Nodup := by decide
  have hinsert : ∃ c, ({} : Generator).insert trophy cup = .ok c := ⟨_, rfl⟩
  have hbulk : ∃ d, ({} : Generator).bulkInsert trophy [.empty, cup] = .ok d := ⟨_, rfl⟩
  obtain ⟨c, hc⟩ := hinsert
  obtain ⟨d, hd⟩ := hbulk
  obtain ⟨row, hstores, hships, list, back, hlist, hback, hsublist, -⟩ :=
    insert_readBack hnames hcolumns {} cup "trph1" fun _ => .int 7
  obtain ⟨rows, hrows, -, hrow⟩ := hships _ d hd
  exact ⟨hnames, hcolumns, c, d, row, rows, hc, hstores c hc, hd, hrows, hrow 1 rfl, list, back, hlist,
    hback, hsublist⟩

example : (({} : Generator).insert Enrolment.trophy Enrolment.cup).map Command.storedRows? =
    .ok (some [[("Title", .text "Cup"), ("Name", .text "Winner"), ("Year", .null)]]) := rfl

end Rowgraph
