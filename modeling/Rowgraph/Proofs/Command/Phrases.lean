import Rowgraph.Proofs.Command.Stored

/-!
# Phrases

The lists and the conditions of a statement, read off its tokens alone (`Tokens.phrases`). A phrase begins at
a word, as a select list does at SELECT or the columns of an insertion at INTO, and it ends where the
parenthesis around it is closed or another clause begins. Its items stand between the commas that are not in
parentheses of their own. Parts of a statement are read one after the other: what begins no phrase is passed
over (`phrasesFrom_append`), and tokens that keep to one item only make that item longer (`Tokens.Keeps`). A
condition is such a part (`Condition.inner_ofExpr`): its text is tests and what joins them
(`Condition.Written`).
-/

set_option autoImplicit false

namespace Rowgraph

/-- What a phrase is in its statement. -/
inductive PhraseKind where
  /-- The columns that an insertion writes. -/
  | columns
  | values
  | select
  | output
  | set
  | on
  | filter
  | groupBy
  | orderBy
  deriving DecidableEq

/-- A phrase and its items, spaces left out. A condition is its only item. -/
structure Phrase where
  kind : PhraseKind
  items : List (List Token)
  deriving DecidableEq

/-- The words that begin a phrase. -/
def Word.openers : List Word :=
  [.into, .values, .select, .output, .set, .on, .whereKw, .groupBy, .orderBy]

/-- The words that may stand at the head of a select list and are no part of it. -/
def Word.heads : List Word := [.distinct, .top]

/-- The words that end the phrase in front of them. -/
def Word.enders : List Word :=
  openers ++ [.fromKw, .join, .inner, .left, .offset, .insert, .update, .delete, .ifKw, .semicolon]

namespace Token

/-- Does the token end the phrase in front of it? -/
def ends : Token → Bool
  | .word w => Word.enders.contains w
  | _ => false

/-- May the token begin a phrase? -/
def opens : Token → Bool
  | .word w => Word.openers.contains w
  | _ => false

/-- Does the token neither begin a phrase nor stand at the head of a list, and does it name no table? -/
def isSilent : Token → Bool
  | .word w => !(Word.openers ++ Word.heads).contains w
  | .table _ _ _ => false
  | _ => true

/-- May the token stand anywhere within an item? -/
def isAtom : Token → Bool
  | .word w => !(Word.enders ++ Word.heads ++ [Word.lparen, Word.rparen, Word.comma]).contains w
  | .table _ _ _ => false
  | _ => true

end Token

namespace Tokens

/-- The items up to the end of a phrase, some parentheses being open already. There is always one, be it
empty. -/
def itemsFrom : Nat → List Token → List (List Token)
  | _, [] => [[]]
  | depth, t :: ts =>
    if t = .word .lparen then (itemsFrom (depth + 1) ts).modifyHead (t :: ·)
    else if t = .word .rparen then
      if depth = 0 then [[]] else (itemsFrom (depth - 1) ts).modifyHead (t :: ·)
    else if depth = 0 ∧ t.ends = true then [[]]
    else if depth = 0 ∧ t = .word .comma then [] :: itemsFrom 0 ts
    else (itemsFrom depth ts).modifyHead (t :: ·)

/-- The items of the phrase that begins with these tokens. One that is empty is none. -/
def listed (ts : List Token) : List (List Token) :=
  if itemsFrom 0 ts = [[]] then [] else itemsFrom 0 ts

/-- What is selected, behind DISTINCT. -/
def behindDistinct : List Token → List Token
  | .word .distinct :: ts => ts
  | ts => ts

/-- What is selected, behind the number of rows taken. -/
def behindTop : List Token → List Token
  | .word .top :: .word .lparen :: .int _ :: .word .rparen :: ts => ts
  | ts => ts

/-- The phrase that a word begins. -/
def opened : Word → List Token → Option Phrase
  | .into, .table _ _ _ :: .word .lparen :: ts => some ⟨.columns, listed ts⟩
  | .values, .word .lparen :: ts => some ⟨.values, listed ts⟩
  | .select, ts => some ⟨.select, listed (behindTop (behindDistinct ts))⟩
  | .output, ts => some ⟨.output, listed ts⟩
  | .set, ts => some ⟨.set, listed ts⟩
  | .on, ts => some ⟨.on, listed ts⟩
  | .whereKw, ts => some ⟨.filter, listed ts⟩
  | .groupBy, ts => some ⟨.groupBy, listed ts⟩
  | .orderBy, ts => some ⟨.orderBy, listed ts⟩
  | _, _ => none

/-- The phrases in tokens without spaces, those within another behind it. -/
def phrasesFrom : List Token → List Phrase
  | [] => []
  | .word w :: ts => (opened w ts).toList ++ phrasesFrom ts
  | _ :: ts => phrasesFrom ts

/-- The phrases of a statement. -/
def phrases (ts : List Token) : List Phrase := phrasesFrom (marks ts)

/-! ## Tokens that keep to one item -/

/-- Do the tokens belong to one item wherever at least so many parentheses are open around them? -/
def Keeps (least : Nat) (ts : List Token) : Prop :=
  ∀ depth, least ≤ depth → ∀ us,
    itemsFrom depth (marks ts ++ us) = (itemsFrom depth us).modifyHead (marks ts ++ ·)

/-- Are the tokens part of one item that begins no phrase and names no table? -/
structure Inner (ts : List Token) : Prop where
  keeps : Keeps 0 ts
  silent : ∀ t ∈ ts, t.isSilent = true

/-- Do the tokens begin no phrase? -/
def Mute (ts : List Token) : Prop := ∀ t ∈ ts, t.opens = false

instance (ts : List Token) : Decidable (Mute ts) :=
  inferInstanceAs (Decidable (∀ t ∈ ts, t.opens = false))

/-- Is this an item of a list? -/
structure Item (ts : List Token) : Prop extends Inner ts where
  nonempty : marks ts ≠ []

end Tokens

open Tokens

@[simp] theorem mute_nil : Mute [] := fun _ ht => absurd ht List.not_mem_nil

@[simp] theorem mute_cons {t : Token} {ts : List Token} : Mute (t :: ts) ↔ t.opens = false ∧ Mute ts :=
  List.forall_mem_cons

@[simp] theorem mute_append {ts us : List Token} : Mute (ts ++ us) ↔ Mute ts ∧ Mute us :=
  List.forall_mem_append

theorem not_opens_of_isSilent {t : Token} (h : t.isSilent = true) : t.opens = false := by
  cases t with
  | word w =>
    revert h
    cases w <;> decide
  | _ => rfl

theorem isSilent_of_isAtom {t : Token} (h : t.isAtom = true) : t.isSilent = true := by
  cases t with
  | word w =>
    revert h
    cases w <;> decide
  | table database schema name => cases h
  | _ => rfl

section Items

variable {t : Token} {ts us : List Token}

theorem itemsFrom_lparen (depth : Nat) (ts : List Token) :
    itemsFrom depth (.word .lparen :: ts) =
      (itemsFrom (depth + 1) ts).modifyHead (.word .lparen :: ·) := by
  rw [itemsFrom, if_pos rfl]

theorem itemsFrom_rparen (depth : Nat) (ts : List Token) :
    itemsFrom (depth + 1) (.word .rparen :: ts) =
      (itemsFrom depth ts).modifyHead (.word .rparen :: ·) := by
  rw [itemsFrom, if_neg (by decide), if_pos rfl, if_neg (Nat.succ_ne_zero depth), Nat.add_sub_cancel]

/-- At the parenthesis that closes it a phrase ends. -/
theorem itemsFrom_closed (ts : List Token) : itemsFrom 0 (.word .rparen :: ts) = [[]] := by
  rw [itemsFrom, if_neg (by decide), if_pos rfl, if_pos rfl]

/-- At the beginning of another clause a phrase ends. -/
theorem itemsFrom_ended (h : t.ends = true) (ts : List Token) : itemsFrom 0 (t :: ts) = [[]] := by
  have hopen : t ≠ .word .lparen := by
    rintro rfl
    cases h
  have hclose : t ≠ .word .rparen := by
    rintro rfl
    cases h
  rw [itemsFrom, if_neg hopen, if_neg hclose, if_pos ⟨rfl, h⟩]

theorem itemsFrom_comma (ts : List Token) :
    itemsFrom 0 (.word .comma :: ts) = [] :: itemsFrom 0 ts := by
  rw [itemsFrom, if_neg (by decide), if_neg (by decide), if_neg (by decide), if_pos ⟨rfl, rfl⟩]

theorem itemsFrom_atom (h : t.isAtom = true) (depth : Nat) (ts : List Token) :
    itemsFrom depth (t :: ts) = (itemsFrom depth ts).modifyHead (t :: ·) := by
  have hends : t.ends = false := by
    cases t with
    | word w =>
      revert h
      cases w <;> decide
    | _ => rfl
  have hword : ∀ w, (Token.word w).isAtom = false → t ≠ .word w := by
    rintro w hw rfl
    rw [hw] at h
    cases h
  rw [itemsFrom, if_neg (hword _ rfl), if_neg (hword _ rfl), if_neg (by simp [hends]),
    if_neg fun hcomma => hword _ rfl hcomma.2]

/-- In parentheses no word ends an item but a parenthesis. -/
theorem itemsFrom_within (hopen : t ≠ .word .lparen) (hclose : t ≠ .word .rparen) (depth : Nat)
    (ts : List Token) :
    itemsFrom (depth + 1) (t :: ts) = (itemsFrom (depth + 1) ts).modifyHead (t :: ·) := by
  rw [itemsFrom, if_neg hopen, if_neg hclose, if_neg fun h => Nat.succ_ne_zero _ h.1,
    if_neg fun h => Nat.succ_ne_zero _ h.1]

end Items

theorem Tokens.marks_parenthesized (ts : List Token) :
    marks (parenthesized ts) = .word .lparen :: (marks ts ++ [Token.word .rparen]) := by
  rw [parenthesized, List.cons_append, marks_cons_of_ne (by decide), marks_append]
  rfl

namespace Tokens.Keeps

variable {least : Nat} {ts us : List Token}

theorem nil : Keeps least [] := by
  intro depth _ us
  exact (congrFun List.modifyHead_id _).symm

theorem mono {more : Nat} (h : Keeps least ts) (hle : least ≤ more) : Keeps more ts :=
  fun depth hdepth => h depth (Nat.le_trans hle hdepth)

theorem append (h : Keeps least ts) (h' : Keeps least us) : Keeps least (ts ++ us) := by
  intro depth hdepth rest
  rw [marks_append, List.append_assoc, h depth hdepth, h' depth hdepth, List.modifyHead_modifyHead]
  congr 1
  funext item
  exact (List.append_assoc ..).symm

/-- Tokens that are read one by one into the item they stand in. -/
theorem cons {t : Token} (hspace : t ≠ .word .space)
    (ht : ∀ depth, least ≤ depth → ∀ us,
      itemsFrom depth (t :: us) = (itemsFrom depth us).modifyHead (t :: ·))
    (h : Keeps least ts) : Keeps least (t :: ts) := by
  intro depth hdepth us
  rw [marks_cons_of_ne hspace, List.cons_append, ht depth hdepth, h depth hdepth,
    List.modifyHead_modifyHead]
  rfl

theorem space (h : Keeps least ts) : Keeps least (.word .space :: ts) := by
  intro depth hdepth us
  rw [marks_space]
  exact h depth hdepth us

theorem parenthesized (h : Keeps 1 ts) : Keeps 0 (parenthesized ts) := by
  intro depth _ us
  rw [marks_parenthesized, List.cons_append, itemsFrom_lparen, List.append_assoc,
    h (depth + 1) (Nat.le_add_left 1 _),
    List.singleton_append, itemsFrom_rparen, List.modifyHead_modifyHead, List.modifyHead_modifyHead]
  congr 1
  funext item
  simp

theorem atoms (h : ts.all Token.isAtom = true) : Keeps 0 ts := by
  induction ts with
  | nil => exact nil
  | cons t ts ih =>
    rw [List.all_cons, Bool.and_eq_true] at h
    by_cases hspace : t = .word .space
    · rw [hspace]
      exact (ih h.2).space
    · exact cons hspace (fun depth _ => itemsFrom_atom h.1 depth) (ih h.2)

/-- In parentheses all tokens keep to one item that are no parentheses themselves. -/
theorem within (hopen : .word .lparen ∉ ts) (hclose : .word .rparen ∉ ts) : Keeps 1 ts := by
  induction ts with
  | nil => exact nil
  | cons t ts ih =>
    rw [List.mem_cons, not_or] at hopen hclose
    by_cases hspace : t = .word .space
    · rw [hspace]
      exact (ih hopen.2 hclose.2).space
    · refine cons hspace (fun depth hdepth us => ?_) (ih hopen.2 hclose.2)
      obtain ⟨outer, rfl⟩ := Nat.exists_eq_add_of_le' hdepth
      exact itemsFrom_within (Ne.symm hopen.1) (Ne.symm hclose.1) outer us

end Tokens.Keeps

namespace Tokens.Inner

variable {ts us : List Token}

theorem append (h : Inner ts) (h' : Inner us) : Inner (ts ++ us) where
  keeps := h.keeps.append h'.keeps
  silent := by
    intro t ht
    rcases List.mem_append.1 ht with ht | ht
    · exact h.silent t ht
    · exact h'.silent t ht

theorem atoms (h : ts.all Token.isAtom = true) : Inner ts where
  keeps := Keeps.atoms h
  silent := fun t ht => isSilent_of_isAtom (List.all_eq_true.1 h t ht)

/-- In parentheses even a comma keeps to the item. -/
theorem enclosed (h : Keeps 1 ts) (hsilent : ∀ t ∈ ts, t.isSilent = true) : Inner (parenthesized ts) where
  keeps := h.parenthesized
  silent := by
    intro t ht
    rcases List.mem_cons.1 ht with rfl | ht
    · rfl
    · rcases List.mem_append.1 ht with ht | ht
      · exact hsilent t ht
      · rw [List.mem_singleton.1 ht]
        rfl

theorem parenthesized (h : Inner ts) : Inner (parenthesized ts) :=
  enclosed (h.keeps.mono (Nat.zero_le 1)) h.silent

/-- Two parts with a word between them. -/
theorem between {w : Word} (h : Inner ts) (hword : (Token.word w).isAtom = true) (h' : Inner us) :
    Inner (ts ++ [Token.word .space] ++ spaced w ++ us) := by
  have hmiddle : Inner ([Token.word .space] ++ spaced w) := by
    apply atoms
    rw [spaced, List.singleton_append, List.all_cons, List.all_cons, hword]
    rfl
  rw [List.append_assoc ts]
  exact (h.append hmiddle).append h'

theorem joined {w : Word} (hword : (Token.word w).isAtom = true) {tests : List (List Token)}
    (h : ∀ test ∈ tests, Inner test) : Inner (Condition.joined w tests) :=
  Condition.joined_of_closed (atoms rfl) (fun hts hus => hts.between hword hus) h

theorem column (scope : Scope) (r : Resolved) : Inner (scope.column r) := by
  apply atoms
  rw [Scope.column]
  split <;> rfl

theorem placeholder {t : Token} (h : t.isPlaceholder = true) : Inner [t] := by
  apply atoms
  cases t with
  | param name => rfl
  | inlineParam name => rfl
  | _ => cases h

end Tokens.Inner

/-! ## Conditions -/

namespace Condition

variable {scope : Scope}

/-- What a test is about: a column, a placeholder or a number. -/
inductive Operand (scope : Scope) : List Token → Prop
  | column (r : Resolved) : Operand scope (scope.column r)
  | placeholder {t : Token} (h : t.isPlaceholder = true) : Operand scope [t]
  | number (n : Int) : Operand scope [.int n]

/-- The text of a condition: tests, and parentheses around the conditions that AND or OR joins. -/
inductive Written (scope : Scope) : List Token → Prop
  | compare (op : Comparison) {left right : List Token} (hleft : Operand scope left)
      (hright : Operand scope right) : Written scope (left ++ [Token.word .space] ++ spaced op.word ++ right)
  | isNull (r : Resolved) (negated : Bool) : Written scope
      (scope.column r ++ [Token.word .space] ++ [Token.word (if negated then .isNotNull else .isNull)])
  | like (r : Resolved) (negated : Bool) {t : Token} (h : t.isPlaceholder = true) : Written scope
      (scope.column r ++ [Token.word .space] ++ spaced (if negated then .notLike else .like) ++
        ([t] ++ [Token.word .space, .word .likeEscape]))
  | among (negated : Bool) {tests : List (List Token)} (h : ∀ test ∈ tests, Written scope test) :
      Written scope (parenthesized (joined (if negated then .and else .or) tests))
  | and {left right : List Token} (hleft : Written scope left) (hright : Written scope right) :
      Written scope
        (parenthesized left ++ [Token.word .space] ++ spaced .and ++ parenthesized right)
  | or {left right : List Token} (hleft : Written scope left) (hright : Written scope right) :
      Written scope
        (parenthesized left ++ [Token.word .space] ++ spaced .or ++ parenthesized right)

theorem operand_binding (s : ConditionState) (m : Member) (value : Value) :
    Operand scope [(s.binding m value).1] :=
  .placeholder (isPlaceholder_placeholder (s.params.entry m.name value (some m)))

theorem written_emitElements (r : Resolved) (m : Member) (negated : Bool) (values : List Value) :
    ∀ s, ∀ test ∈ (emitElements (scope.column r) m negated values s).1, Written scope test := by
  induction values with
  | nil => exact fun s test htest => absurd htest List.not_mem_nil
  | cons value rest ih =>
    intro s
    rw [emitElements]
    split
    · -- a test for NULL
      refine List.forall_mem_cons.2 ⟨?_, ih s⟩
      have hnull : Written scope _ := .isNull r negated
      rwa [List.append_assoc] at hnull
    · refine List.forall_mem_cons.2 ⟨?_, ih _⟩
      cases negated with
      | true => exact .compare .ne (.column r) (operand_binding s m value)
      | false => exact .compare .eq (.column r) (operand_binding s m value)

theorem Check.written_emit (c : Check) (s : ConditionState) : Written scope (c.emit scope s).1 := by
  cases c with
  | compare r op value => exact .compare op (.column r) (operand_binding _ _ _)
  | compareMember r op r' => exact .compare op (.column r) (.column r')
  | isNull r negated => exact .isNull r negated
  | like r place text negated => exact .like r negated (isPlaceholder_placeholder _)
  | among r elements negated =>
    rw [Check.emit]
    split
    · -- no member is in the empty list
      exact .compare .eq (.number 1) (.number _)
    · exact .among negated (written_emitElements r r.member negated elements (s.noting r))
  | flag r negated => exact .compare .eq (.column r) (.number _)

theorem Plan.written_emit (p : Plan) : ∀ s, Written scope (p.emit scope s).1 := by
  induction p with
  | check c => exact c.written_emit
  | and left right hl hr => exact fun s => .and (hl s) (hr _)
  | or left right hl hr => exact fun s => .or (hl s) (hr _)

/-- Every condition has such a text. -/
theorem written_ofExpr {e : Expr} {ps ps' : Parameters} {c : Condition}
    (h : ofExpr scope e ps = (.ok c, ps')) : Written scope c.tokens := by
  obtain ⟨p, -, hemit⟩ := ofExpr_iff.1 h
  have hwritten : Written scope _ := p.written_emit ⟨ps, []⟩
  rwa [hemit] at hwritten

theorem Operand.inner {ts : List Token} (h : Operand scope ts) : Inner ts := by
  cases h with
  | column r => exact Inner.column scope r
  | placeholder h => exact Inner.placeholder h
  | number n => exact Inner.atoms rfl

theorem Written.inner {ts : List Token} (h : Written scope ts) : Inner ts := by
  induction h with
  | compare op hleft hright => exact hleft.inner.between (by cases op <;> rfl) hright.inner
  | isNull r negated =>
    exact ((Inner.column scope r).append (Inner.atoms rfl)).append (Inner.atoms (by cases negated <;> rfl))
  | like r negated h =>
    refine (Inner.column scope r).between ?_ ((Inner.placeholder h).append (Inner.atoms rfl))
    cases negated <;> rfl
  | among negated h ih => exact (Inner.joined (by cases negated <;> rfl) ih).parenthesized
  | and hleft hright ihl ihr => exact ihl.parenthesized.between rfl ihr.parenthesized
  | or hleft hright ihl ihr => exact ihl.parenthesized.between rfl ihr.parenthesized

theorem inner_ofExpr {e : Expr} {ps ps' : Parameters} {c : Condition}
    (h : ofExpr scope e ps = (.ok c, ps')) : Inner c.tokens := (written_ofExpr h).inner

end Condition

/-! ## Reading lists -/

section Lists

variable {ts us : List Token} {its : List (List Token)}

/-- What begins no phrase is passed over. -/
theorem phrasesFrom_append (h : Mute ts) (us : List Token) :
    phrasesFrom (marks ts ++ us) = phrasesFrom us := by
  have hnone : ∀ w, (Token.word w).opens = false → ∀ ts, opened w ts = none := by
    intro w hw ts
    cases w <;> first | rfl | cases hw
  induction ts with
  | nil => rfl
  | cons t ts ih =>
    rw [mute_cons] at h
    by_cases hspace : t = .word .space
    · rw [hspace, marks_space]
      exact ih h.2
    · rw [marks_cons_of_ne hspace, List.cons_append, ← ih h.2]
      cases t with
      | word w =>
        rw [phrasesFrom, hnone w h.1]
        rfl
      | _ => rfl

theorem Tokens.Inner.mute (h : Inner ts) : Mute ts := fun t ht => not_opens_of_isSilent (h.silent t ht)

/-- A condition is read up to the end of its clause. -/
theorem Tokens.Inner.listed_append (h : Inner ts) (hends : itemsFrom 0 us = [[]]) :
    listed (marks ts ++ us) = listed (marks ts) := by
  have hnil := h.keeps 0 (Nat.le_refl 0) []
  have hus := h.keeps 0 (Nat.le_refl 0) us
  rw [List.append_nil] at hnil
  rw [hends] at hus
  rw [listed, listed, hus, hnil]
  rfl

/-- What holds of items, and of two parts with a comma between them, holds of the list of the items. -/
theorem separated_of_closed {P : List Token → Prop} (hnil : P [])
    (hcomma : ∀ {ts us : List Token}, P ts → P us → P (ts ++ Token.word .comma :: Token.word .space :: us))
    (h : ∀ item ∈ its, P item) : P (separated its) := by
  induction its with
  | nil => exact hnil
  | cons item rest ih =>
    have hrest := ih fun i hi => h i (List.mem_cons_of_mem _ hi)
    cases rest with
    | nil => exact h item List.mem_cons_self
    | cons next rest => exact hcomma (h item List.mem_cons_self) hrest

/-- The items of a list are read up to the end of its phrase. -/
theorem itemsFrom_separated (hne : its ≠ []) (h : ∀ item ∈ its, Keeps 0 item)
    (hends : itemsFrom 0 us = [[]]) : itemsFrom 0 (marks (separated its) ++ us) = its.map marks := by
  induction its with
  | nil => exact absurd rfl hne
  | cons item rest ih =>
    have hitem := h item List.mem_cons_self 0 (Nat.le_refl 0)
    cases rest with
    | nil =>
      rw [separated, hitem, hends, List.modifyHead_cons, List.append_nil]
      rfl
    | cons next rest =>
      have hrest := ih (List.cons_ne_nil _ _) fun i hi => h i (List.mem_cons_of_mem _ hi)
      rw [separated, marks_append, marks_cons_of_ne (by decide), marks_space, List.append_assoc, hitem,
        List.cons_append, itemsFrom_comma, hrest, List.modifyHead_cons, List.append_nil]
      rfl

theorem listed_separated (h : ∀ item ∈ its, Item item) (hends : itemsFrom 0 us = [[]]) :
    listed (marks (separated its) ++ us) = its.map marks := by
  cases its with
  | nil =>
    rw [listed, if_pos]
    · rfl
    · exact hends
  | cons item rest =>
    rw [listed, itemsFrom_separated (List.cons_ne_nil _ _) (fun i hi => (h i hi).keeps) hends, if_neg]
    intro heq
    exact (h item List.mem_cons_self).nonempty (List.cons.inj heq).1

theorem silent_separated (h : ∀ item ∈ its, Item item) : ∀ t ∈ separated its, t.isSilent = true := by
  intro t ht
  rcases mem_separated ht with rfl | rfl | ⟨item, hitem, ht⟩
  · rfl
  · rfl
  · exact (h item hitem).silent t ht

theorem mute_separated (h : ∀ item ∈ its, Item item) : Mute (separated its) :=
  fun t ht => not_opens_of_isSilent (silent_separated h t ht)

end Lists

end Rowgraph
