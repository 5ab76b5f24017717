import Mathlib.Algebra.GroupWithZero.Nat
import Rowgraph.Proofs.Command.Body

/-!
# Tables of statements

Which tables a statement reads and which it writes is read off its tokens alone (`Tokens.uses`): what stands
behind INTO or UPDATE is written, and so is the table that DELETE names, or that goes under the alias behind
UPDATE or DELETE; every other table behind FROM or JOIN is read; and shipped rows are neither. A hint belongs to
the table in front of it. Tokens that are made piece by piece mention what the pieces mention, and their hints
are those behind the tables (`Tokens.Hinted`).
-/

set_option autoImplicit false

namespace Rowgraph

/-! ## Reading tables -/

/-- What a statement does with a table. -/
inductive TableRole where
  | read
  | written
  /-- Not a table of the database, but rows that come with the statement. -/
  | shipped
  deriving DecidableEq

/-- A table in a statement, and the number of hints behind it. -/
structure TableUse where
  role : TableRole
  name : String
  qualifier : Option String
  hints : Nat := 0
  deriving DecidableEq

/-- What is said about tables, in the order of a statement. -/
inductive TableMention where
  /-- A semicolon, with which a statement ends. -/
  | ending
  /-- The alias of the table that is updated or deleted from. -/
  | target (name : String)
  /-- A deletion from the next table. -/
  | deletion
  /-- A table behind INTO or UPDATE. -/
  | written (name : String) (hints : Nat)
  /-- A table behind FROM or JOIN. -/
  | source (name : String) (qualifier : Option String) (hints : Nat)
  /-- Shipped rows behind FROM or JOIN. -/
  | shipped (name : String) (qualifier : Option String) (hints : Nat)

namespace TableMention

/-- The number of hints behind the table. -/
def hints : TableMention → Nat
  | written _ n => n
  | source _ _ n => n
  | shipped _ _ n => n
  | _ => 0

end TableMention

/-- Which table is written, of those that are still to come. -/
inductive Target where
  | none
  | next
  | under (name : String)

/-- The words behind which something is said about tables. -/
def Word.tabular : List Word := [.semicolon, .delete, .update, .into, .fromKw, .join]

namespace Token

/-- Is nothing said about tables behind the token, and is it no hint? -/
def isQuiet : Token → Bool
  | .word w => !(Word.noLock :: Word.tabular).contains w
  | _ => true

/-- May the token belong to the table in front of it? -/
def qualifies : Token → Bool
  | .alias _ => true
  | .word .noLock => true
  | _ => false

end Token

namespace Tokens

/-- The number of hints at the front. -/
def hintsAhead : List Token → Nat
  | .word .noLock :: ts => hintsAhead ts + 1
  | _ => 0

/-- The alias at the front, and what is behind it. -/
def aliasAhead : List Token → Option String × List Token
  | .alias name :: ts => (some name, ts)
  | ts => (none, ts)

/-- The table or the shipped rows at the front. -/
def source? : List Token → Option TableMention
  | .table _ _ name :: ts => some (.source name (aliasAhead ts).1 (hintsAhead (aliasAhead ts).2))
  | .param name :: ts => some (.shipped name (aliasAhead ts).1 (hintsAhead (aliasAhead ts).2))
  | _ => none

/-- What a word says about tables. -/
def mention? : Word → List Token → Option TableMention
  | .semicolon, _ => some .ending
  | .delete, .alias name :: _ => some (.target name)
  | .delete, _ => some .deletion
  | .update, .alias name :: _ => some (.target name)
  | .update, .table _ _ name :: ts => some (.written name (hintsAhead ts))
  | .into, .table _ _ name :: ts => some (.written name (hintsAhead ts))
  | .fromKw, ts => source? ts
  | .join, ts => source? ts
  | _, _ => none

/-- What is said about tables in tokens without spaces. -/
def mentionsFrom : List Token → List TableMention
  | [] => []
  | .word w :: ts => (mention? w ts).toList ++ mentionsFrom ts
  | _ :: ts => mentionsFrom ts

/-- The tables that are mentioned, each with what is done with it. -/
def usesOf : Target → List TableMention → List TableUse
  | _, [] => []
  | _, .ending :: ms => usesOf .none ms
  | _, .target name :: ms => usesOf (.under name) ms
  | _, .deletion :: ms => usesOf .next ms
  | target, .written name n :: ms => ⟨.written, name, none, n⟩ :: usesOf target ms
  | target, .shipped name qualifier n :: ms => ⟨.shipped, name, qualifier, n⟩ :: usesOf target ms
  | .none, .source name qualifier n :: ms => ⟨.read, name, qualifier, n⟩ :: usesOf .none ms
  | .next, .source name qualifier n :: ms => ⟨.written, name, qualifier, n⟩ :: usesOf .none ms
  | .under target, .source name qualifier n :: ms =>
    ⟨if qualifier = some target then .written else .read, name, qualifier, n⟩ :: usesOf (.under target) ms

/-- The tables of a statement. -/
def uses (ts : List Token) : List TableUse := usesOf .none (mentionsFrom (marks ts))

/-- The tokens without hints, and without the space in front of each. -/
def unhinted : List Token → List Token
  | .word .space :: .word .noLock :: ts => unhinted ts
  | t :: ts => t :: unhinted ts
  | [] => []

/-- Do these tokens not belong to a table in front of them? -/
def Stops (ts : List Token) : Prop := ∀ t, ts.head? = some t → t.qualifies = false

/-- Is nothing said about tables in the tokens, and are there no hints? -/
def Quiet (ts : List Token) : Prop := ∀ t ∈ ts, t.isQuiet = true

/-- Is this mentioned in the tokens, each hint being behind a table, and are the second ones the same tokens
without hints? -/
structure Hinted (ts plain : List Token) (ms : List TableMention) : Prop where
  stops : ∀ us, Stops us → Stops (marks ts ++ us)
  reads : ∀ us, Stops us → mentionsFrom (marks ts ++ us) = ms ++ mentionsFrom us
  starts : ts.head? ≠ some (.word .noLock)
  plain_eq : unhinted ts = plain
  count_eq : ts.count (.word .noLock) = (ms.map TableMention.hints).sum

/-- Is this mentioned in the tokens, none of which is a hint? -/
abbrev Bare (ts : List Token) (ms : List TableMention) : Prop := Hinted ts ts ms

end Tokens

open Tokens

theorem quiet_append {ts us : List Token} : Quiet (ts ++ us) ↔ Quiet ts ∧ Quiet us := List.forall_mem_append

theorem quiet_of_all {ts : List Token} (h : ts.all Token.isQuiet = true) : Quiet ts := List.all_eq_true.1 h

theorem quiet_space : Quiet [.word .space] := quiet_of_all rfl

/-- Nothing is said about tables within a clause. -/
theorem Tokens.Body.quiet {ts : List Token} (h : Body ts) : Quiet ts := by
  have hwithin : ∀ t : Token, t.isWithin = true → t.isQuiet = true := by
    intro t ht
    cases t with
    | word w =>
      revert ht
      cases w <;> decide
    | _ => rfl
  induction h with
  | plain h => exact fun t ht => hwithin t (List.all_eq_true.1 h t ht)
  | append _ _ ih ih' => exact quiet_append.2 ⟨ih, ih'⟩
  | parenthesized _ ih =>
    intro t ht
    rcases List.mem_cons.1 ht with rfl | ht
    · rfl
    · rcases List.mem_append.1 ht with ht | ht
      · exact ih t ht
      · rw [List.mem_singleton.1 ht]
        rfl

theorem mention?_of_isQuiet {w : Word} (h : (Token.word w).isQuiet = true) (ts : List Token) :
    mention? w ts = none := by
  revert h
  cases w <;> intro h <;> first | rfl | cases h

theorem mentionsFrom_append {ts : List Token} (h : Quiet ts) (us : List Token) :
    mentionsFrom (marks ts ++ us) = mentionsFrom us := by
  induction ts with
  | nil => rfl
  | cons t ts ih =>
    rw [Quiet, List.forall_mem_cons] at h
    by_cases hspace : t = .word .space
    · rw [hspace, marks_space]
      exact ih h.2
    · rw [marks_cons_of_ne hspace, List.cons_append, ← ih h.2]
      cases t with
      | word w =>
        rw [mentionsFrom, mention?_of_isQuiet h.1]
        rfl
      | _ => rfl

/-! ## Tokens without hints -/

section Unhinted

variable {ts us : List Token}

theorem unhinted_cons {t : Token} (h : t = .word .space → ts.head? ≠ some (.word .noLock)) :
    unhinted (t :: ts) = t :: unhinted ts := by
  rw [unhinted]
  rintro rest ht rfl
  exact h ht rfl

theorem unhinted_word {w : Word} (h : w ≠ .space) : unhinted (.word w :: ts) = .word w :: unhinted ts :=
  unhinted_cons fun heq => absurd (Token.word.inj heq) h

theorem unhinted_append (h : us.head? ≠ some (.word .noLock)) :
    unhinted (ts ++ us) = unhinted ts ++ unhinted us := by
  induction ts using unhinted.induct with
  | case1 ts ih => exact ih
  | case2 t ts hnone ih =>
    -- a space that is kept has no hint behind it, neither in these tokens nor where the others begin
    have hts : t = .word .space → ts.head? ≠ some (.word .noLock) := by
      intro ht hhead
      obtain ⟨rest, rfl⟩ := List.head?_eq_some_iff.1 hhead
      exact hnone rest ht rfl
    have hall : t = .word .space → (ts ++ us).head? ≠ some (.word .noLock) := by
      intro ht
      cases ts with
      | nil => exact h
      | cons u rest => exact hts ht
    rw [List.cons_append, unhinted_cons hall, ih, unhinted_cons hts, List.cons_append]
  | case3 => rfl

theorem unhinted_of_quiet (h : Quiet ts) : unhinted ts = ts := by
  induction ts with
  | nil => rfl
  | cons t ts ih =>
    rw [Quiet, List.forall_mem_cons] at h
    rw [unhinted_cons fun _ => ?_, ih h.2]
    intro hhead
    obtain ⟨rest, rfl⟩ := List.head?_eq_some_iff.1 hhead
    cases h.2 _ List.mem_cons_self

theorem hint_false : Join.hint false = [] := rfl

theorem unhinted_hint (dirtyRead : Bool) : unhinted (Join.hint dirtyRead) = [] := by
  cases dirtyRead <;> rfl

theorem count_noLock_of_quiet (h : Quiet ts) : ts.count (.word .noLock) = 0 := by
  rw [List.count_eq_zero]
  intro hmem
  cases h _ hmem

end Unhinted

/-! ## Parts of statements -/

theorem stops_word {w : Word} (hw : w ≠ .noLock) (ts : List Token) : Stops (.word w :: ts) := by
  rintro t ht
  cases ht
  cases w <;> first | rfl | exact absurd rfl hw

namespace Tokens.Hinted

variable {ts us plain plain' : List Token} {ms ns : List TableMention} {w : Word}

theorem nil : Bare [] [] where
  stops _ hus := hus
  reads _ _ := rfl
  starts := nofun
  plain_eq := rfl
  count_eq := rfl

theorem append (h : Hinted ts plain ms) (h' : Hinted us plain' ns) :
    Hinted (ts ++ us) (plain ++ plain') (ms ++ ns) where
  stops := by
    intro rest hrest
    rw [marks_append, List.append_assoc]
    exact h.stops _ (h'.stops _ hrest)
  reads := by
    intro rest hrest
    rw [marks_append, List.append_assoc, h.reads _ (h'.stops _ hrest), h'.reads _ hrest, List.append_assoc]
  starts := by
    cases ts with
    | nil => exact h'.starts
    | cons t ts => exact h.starts
  plain_eq := by rw [unhinted_append h'.starts, h.plain_eq, h'.plain_eq]
  count_eq := by rw [List.count_append, h.count_eq, h'.count_eq, List.map_append, List.sum_append]

theorem space (h : Hinted ts plain ms) : Hinted (.word .space :: ts) (.word .space :: plain) ms where
  stops := by
    rw [marks_space]
    exact h.stops
  reads := by
    rw [marks_space]
    exact h.reads
  starts := by simp
  plain_eq := by rw [unhinted_cons fun _ => h.starts, h.plain_eq]
  count_eq := by rw [List.count_cons_of_ne (by simp), h.count_eq]

/-- A word, what belongs to it, and a hint if there may be one. -/
theorem opening {m : Option TableMention} (dirtyRead : Bool) (hspace : w ≠ .space) (hhint : w ≠ .noLock)
    (hts : Quiet ts) (hm : ∀ us, Stops us → mention? w (marks (ts ++ Join.hint dirtyRead) ++ us) = m)
    (hints : (m.map TableMention.hints).getD 0 = dirtyRead.toNat) :
    Hinted (.word w :: (ts ++ Join.hint dirtyRead)) (.word w :: ts) m.toList where
  stops := by
    intro us _
    rw [marks_cons_of_ne (by simpa using hspace), List.cons_append]
    exact stops_word hhint _
  reads := by
    intro us hus
    have hskip : mentionsFrom (marks (Join.hint dirtyRead) ++ us) = mentionsFrom us := by
      cases dirtyRead <;> rfl
    rw [marks_cons_of_ne (by simpa using hspace), List.cons_append, mentionsFrom, hm us hus, marks_append,
      List.append_assoc, mentionsFrom_append hts, hskip]
  starts := by simpa using hhint
  plain_eq := by
    have hhead : (Join.hint dirtyRead).head? ≠ some (.word .noLock) := by cases dirtyRead <;> decide
    rw [unhinted_word hspace, unhinted_append hhead, unhinted_of_quiet hts, unhinted_hint, List.append_nil]
  count_eq := by
    have hcount : (Join.hint dirtyRead).count (.word .noLock) = dirtyRead.toNat := by cases dirtyRead <;> rfl
    rw [List.count_cons_of_ne (by simpa using hhint), List.count_append, count_noLock_of_quiet hts, hcount,
      Nat.zero_add, ← hints]
    cases m <;> simp

/-- A word and what belongs to it, when there is no hint. -/
theorem mentioning {m : Option TableMention} (hspace : w ≠ .space) (hhint : w ≠ .noLock) (hts : Quiet ts)
    (hm : ∀ us, Stops us → mention? w (marks ts ++ us) = m) (hints : (m.map TableMention.hints).getD 0 = 0) :
    Bare (.word w :: ts) m.toList := by
  have hnil : ts ++ Join.hint false = ts := List.append_nil ts
  have h := opening (m := m) false hspace hhint hts (by rwa [hnil]) hints
  rwa [hnil] at h

/-- A word behind which no table is mentioned. -/
theorem quiet (hw : (Token.word w).isQuiet = true) (hspace : w ≠ .space) (hts : Quiet ts) :
    Bare (.word w :: ts) [] := by
  refine mentioning (m := none) hspace ?_ hts (fun us _ => mention?_of_isQuiet hw _) rfl
  rintro rfl
  cases hw

/-- A name that stands by itself. -/
theorem name (name : String) : Bare [.word .space, .ident name] [] := by
  have hident : Bare [.ident name] [] := by
    refine ⟨fun us _ t ht => ?_, fun us _ => rfl, nofun, rfl, rfl⟩
    cases ht
    rfl
  exact hident.space

/-- A word behind which no table is mentioned, and what belongs to it behind a space. -/
theorem leading (hw : (Token.word w).isQuiet = true) (hspace : w ≠ .space) (hts : Quiet ts) :
    Bare (spaced w ++ ts) [] :=
  quiet hw hspace (quiet_append.2 ⟨quiet_space, hts⟩)

/-- A clause without tables. -/
theorem clause (hw : (Token.word w).isQuiet = true) (hspace : w ≠ .space) (hts : Quiet ts) :
    Bare (clause w ts) [] :=
  (leading hw hspace hts).space

theorem parenthesized (h : Hinted ts plain ms) : Hinted (parenthesized ts) (parenthesized plain) ms where
  stops := by
    intro us _
    rw [marks_parenthesized]
    exact stops_word (by simp) _
  reads := by
    intro us _
    rw [marks_parenthesized, List.cons_append, List.append_assoc]
    exact h.reads _ (stops_word (by simp) us)
  starts := by simp [Tokens.parenthesized]
  plain_eq := by
    rw [Tokens.parenthesized, List.cons_append, unhinted_word (by decide), unhinted_append (by simp), h.plain_eq]
    rfl
  count_eq := by
    rw [Tokens.parenthesized, List.cons_append, List.count_cons_of_ne (by simp), List.count_append, h.count_eq]
    rfl

/-- A table that is a query. -/
theorem derived (h : Hinted ts plain ms) :
    Hinted (Tokens.clause .fromKw (Tokens.parenthesized ts)) (Tokens.clause .fromKw (Tokens.parenthesized plain))
      ms := by
  have hinner := h.parenthesized.space
  have hfrom : Hinted (.word .fromKw :: .word .space :: Tokens.parenthesized ts)
      (.word .fromKw :: .word .space :: Tokens.parenthesized plain) ms := by
    refine ⟨fun us _ => stops_word (by simp) _, fun us hus => hinner.reads us hus, by simp, ?_, ?_⟩
    · rw [unhinted_word (by decide), hinner.plain_eq]
    · rw [List.count_cons_of_ne (by simp), hinner.count_eq]
  exact hfrom.space

end Tokens.Hinted

/-! ## Tables -/

theorem hintsAhead_of_stops {ts : List Token} (h : Stops ts) : hintsAhead ts = 0 := by
  cases ts with
  | nil => rfl
  | cons t ts =>
    have ht := h t rfl
    rw [hintsAhead]
    rintro rest heq
    cases heq
    cases ht

/-- The hint behind a table. -/
theorem hintsAhead_hint (dirtyRead : Bool) {us : List Token} (h : Stops us) :
    hintsAhead (marks (Join.hint dirtyRead) ++ us) = dirtyRead.toNat := by
  cases dirtyRead with
  | false => exact hintsAhead_of_stops h
  | true =>
    change hintsAhead (.word .noLock :: us) = 1
    rw [hintsAhead, hintsAhead_of_stops h]

theorem aliasAhead_hint (dirtyRead : Bool) {us : List Token} (h : Stops us) :
    aliasAhead (marks (Join.hint dirtyRead) ++ us) = (none, marks (Join.hint dirtyRead) ++ us) := by
  cases dirtyRead with
  | true => rfl
  | false =>
    cases us with
    | nil => rfl
    | cons t us =>
      have ht := h t rfl
      cases t with
      | «alias» name => cases ht
      | _ => rfl

/-- The alias behind a table, if it has one. -/
def qualifierTokens (qualifier : Option String) : List Token :=
  match qualifier with
  | some name => [.word .space, .alias name]
  | none => []

theorem aliasTokens_eq (scope : Scope) (position : Nat) :
    Join.aliasTokens scope position = qualifierTokens (scope.alias? position) := rfl

theorem quiet_qualifierTokens (qualifier : Option String) : Quiet (qualifierTokens qualifier) := by
  cases qualifier <;> exact quiet_of_all rfl

theorem aliasAhead_qualifier (qualifier : Option String) (dirtyRead : Bool) {us : List Token} (h : Stops us) :
    aliasAhead (marks (qualifierTokens qualifier ++ Join.hint dirtyRead) ++ us) =
      (qualifier, marks (Join.hint dirtyRead) ++ us) := by
  cases qualifier with
  | none => exact aliasAhead_hint dirtyRead h
  | some name => rfl

section Sources

variable {w : Word} {t : Token} {m : Option String → Nat → TableMention}

/-- What stands behind FROM or JOIN, under its alias and with the hint that it may have. -/
theorem hinted_behind (hw : w = .fromKw ∨ w = .join) (ht : t.isQuiet = true) (hspace : t ≠ .word .space)
    (hsource : ∀ ts, source? (t :: ts) = some (m (aliasAhead ts).1 (hintsAhead (aliasAhead ts).2)))
    (hints : ∀ qualifier n, (m qualifier n).hints = n) (qualifier : Option String) (dirtyRead : Bool) :
    Hinted (spaced w ++ [t] ++ qualifierTokens qualifier ++ Join.hint dirtyRead)
      (spaced w ++ [t] ++ qualifierTokens qualifier) [m qualifier dirtyRead.toNat] := by
  have hquiet : Quiet (.word .space :: t :: qualifierTokens qualifier) :=
    List.forall_mem_cons.2 ⟨rfl, List.forall_mem_cons.2 ⟨ht, quiet_qualifierTokens qualifier⟩⟩
  have hmention : ∀ us, Stops us → mention? w (marks (.word .space :: t :: qualifierTokens qualifier ++
      Join.hint dirtyRead) ++ us) = some (m qualifier dirtyRead.toNat) := by
    intro us hus
    have hfound := hsource (marks (qualifierTokens qualifier ++ Join.hint dirtyRead) ++ us)
    rw [aliasAhead_qualifier qualifier dirtyRead hus, hintsAhead_hint dirtyRead hus] at hfound
    rw [List.cons_append, List.cons_append, marks_space, marks_cons_of_ne hspace, List.cons_append]
    rcases hw with rfl | rfl
    · exact hfound
    · exact hfound
  have h := Hinted.opening dirtyRead (by rcases hw with rfl | rfl <;> decide)
    (by rcases hw with rfl | rfl <;> decide) hquiet hmention (hints qualifier _)
  simpa only [spaced, List.cons_append, List.nil_append, List.append_assoc, Option.toList_some] using h

theorem hinted_table (hw : w = .fromKw ∨ w = .join) (database schema : Option String) (name : String)
    (qualifier : Option String) (dirtyRead : Bool) :
    Hinted (spaced w ++ [Token.table database schema name] ++ qualifierTokens qualifier ++ Join.hint dirtyRead)
      (spaced w ++ [Token.table database schema name] ++ qualifierTokens qualifier)
      [.source name qualifier dirtyRead.toNat] :=
  hinted_behind (m := .source name) hw rfl (by simp) (fun _ => rfl) (fun _ _ => rfl) qualifier dirtyRead

/-- A table that is not to have one. -/
theorem bare_table (hw : w = .fromKw ∨ w = .join) (database schema : Option String) (name : String)
    (qualifier : Option String) :
    Bare (spaced w ++ [Token.table database schema name] ++ qualifierTokens qualifier) [.source name qualifier 0] := by
  have h := hinted_table hw database schema name qualifier false
  rwa [hint_false, List.append_nil] at h

/-- Shipped rows have no hint. -/
theorem bare_shipped (hw : w = .fromKw ∨ w = .join) (rows : TableParameter) (qualifier : Option String) :
    Bare (spaced w ++ [rows.placeholder] ++ qualifierTokens qualifier) [.shipped rows.name qualifier 0] := by
  have hspace : rows.placeholder ≠ .word .space := by simp [TableParameter.placeholder]
  have h := hinted_behind (m := .shipped rows.name) hw rfl hspace (fun _ => rfl) (fun _ _ => rfl) qualifier false
  rwa [hint_false, List.append_nil] at h

end Sources

/-! ## Heads of writes -/

theorem bare_insertHead (e : Entity) (ms : List Member) :
    Bare (e.insertHead ms) [.written e.tableName 0] := by
  have hcolumns : Quiet (parenthesized (Member.columnList none ms)) := (body_columnList none ms).parenthesized.quiet
  have htable : Quiet [.word .space, e.reference, .word .space] := quiet_of_all rfl
  have hlist := quiet_append.2 ⟨quiet_append.2 ⟨htable, hcolumns⟩, quiet_space⟩
  have hinsert : Bare (spaced .insert) [] := Hinted.quiet rfl (by decide) quiet_space
  have hinto := Hinted.mentioning (w := .into) (m := some (.written e.tableName 0)) (by decide) (by decide) hlist
    (fun _ _ => rfl) rfl
  have hall := hinsert.append hinto
  simpa only [Entity.insertHead, spaced, List.append_assoc, List.cons_append, List.nil_append,
    Option.toList_some] using hall

/-- A table behind UPDATE. -/
theorem bare_update (e : Entity) : Bare (spaced .update ++ [e.reference]) [.written e.tableName 0] := by
  refine Hinted.mentioning (w := .update) (m := some (.written e.tableName 0)) (by decide) (by decide)
    (quiet_of_all rfl) (fun us hus => ?_) rfl
  change some (TableMention.written e.tableName (hintsAhead us)) = _
  rw [hintsAhead_of_stops hus]

/-- An alias behind UPDATE or DELETE. -/
theorem bare_target {w : Word} (hw : w = .update ∨ w = .delete) (name : String) :
    Bare (spaced w ++ [Token.alias name]) [.target name] := by
  rcases hw with rfl | rfl
  · exact Hinted.mentioning (w := .update) (m := some (.target name)) (by decide) (by decide)
      (quiet_of_all rfl) (fun _ _ => rfl) rfl
  · exact Hinted.mentioning (w := .delete) (m := some (.target name)) (by decide) (by decide)
      (quiet_of_all rfl) (fun _ _ => rfl) rfl

theorem bare_deletion : Bare (spaced .delete) [.deletion] := by
  refine Hinted.mentioning (w := .delete) (m := some .deletion) (by decide) (by decide) quiet_space
    (fun us hus => ?_) rfl
  change mention? .delete us = some .deletion
  cases us with
  | nil => rfl
  | cons t us =>
    have ht := hus t rfl
    cases t with
    | «alias» name => cases ht
    | _ => rfl

theorem bare_ending : Bare [.word .semicolon] [.ending] :=
  Hinted.mentioning (w := .semicolon) (m := some .ending) (by decide) (by decide) nofun (fun _ _ => rfl) rfl

/-! ## What is done with the tables -/

/-- The hints behind tables are kept. -/
theorem sum_usesOf (target : Target) (ms : List TableMention) :
    ((usesOf target ms).map TableUse.hints).sum = (ms.map TableMention.hints).sum := by
  fun_induction usesOf target ms with
  | case1 => rfl
  -- nothing that is only said about tables has a hint
  | case2 target ms ih | case4 target ms ih | case3 target name ms ih => simpa [TableMention.hints] using ih
  | case5 target name n ms ih => simp [TableMention.hints, ih]
  | case7 name qualifier n ms ih | case8 name qualifier n ms ih => simp [TableMention.hints, ih]
  | case6 target name qualifier n ms ih | case9 target name qualifier n ms ih => simp [TableMention.hints, ih]

namespace Tokens.Hinted

variable {ts plain : List Token} {ms : List TableMention}

theorem uses_eq (h : Hinted ts plain ms) : uses ts = usesOf .none ms := by
  have hstops : Stops [] := nofun
  have hreads := h.reads [] hstops
  rw [mentionsFrom, List.append_nil, List.append_nil] at hreads
  rw [uses, hreads]

/-- Each hint is behind one of the tables. -/
theorem count_noLock (h : Hinted ts plain ms) :
    ts.count (.word .noLock) = ((uses ts).map TableUse.hints).sum := by
  rw [h.count_eq, h.uses_eq, sum_usesOf]

end Tokens.Hinted

end Rowgraph
