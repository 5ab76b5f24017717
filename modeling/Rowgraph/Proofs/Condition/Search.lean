import Rowgraph.Proofs.Condition.Truth
import Rowgraph.Proofs.Parameter

/-!
# Reading search conditions

How the server reads the tokens of a condition. Spaces separate and mean nothing; names behind an
alias are columns of its table (`lexemes`); a predicate is a comparison, a test for NULL or a LIKE
with its escape character (`items`); AND binds tighter than OR, and parentheses tighter than both
(`run`). The reading is one pass from the left with a stack for open parentheses, so tokens can be read
piece by piece (`Reads`, `Fills`).
-/

set_option autoImplicit false

namespace Rowgraph.Search

/-- What a predicate is about. -/
inductive Operand where
  | column (qualifier : Option String) (name : String)
  | placeholder (name : String)
  | int (n : Int)
  deriving DecidableEq

/-- An operand or a word between operands. -/
inductive Lexeme where
  | operand (o : Operand)
  | word (w : Word)
  deriving DecidableEq

/-- The lexemes of tokens. -/
def lexemes : List Token → Option (List Lexeme)
  | [] => some []
  | .word .space :: rest => lexemes rest
  | .word w :: rest => (lexemes rest).map (.word w :: ·)
  | .alias q :: .word .dot :: .ident c :: rest =>
    (lexemes rest).map (.operand (.column (some q) c) :: ·)
  | .ident c :: rest => (lexemes rest).map (.operand (.column none c) :: ·)
  | .param name :: rest => (lexemes rest).map (.operand (.placeholder name) :: ·)
  | .inlineParam name :: rest => (lexemes rest).map (.operand (.placeholder name) :: ·)
  | .int n :: rest => (lexemes rest).map (.operand (.int n) :: ·)
  | _ => none

/-- A condition that is no conjunction or disjunction. -/
inductive Predicate where
  | compare (left : Operand) (op : Comparison) (right : Operand)
  | isNull (o : Operand) (negated : Bool)
  /-- A LIKE with an escape character. -/
  | like (subject pattern : Operand) (negated : Bool)
  deriving DecidableEq

/-- A predicate or what may stand between predicates. -/
inductive Item where
  | predicate (p : Predicate)
  | lparen
  | rparen
  | and
  | or
  deriving DecidableEq

/-- The comparison that a word writes. -/
def comparison? : Word → Option Comparison
  | .eq => some .eq
  | .ne => some .ne
  | .lt => some .lt
  | .gt => some .gt
  | .lte => some .lte
  | .gte => some .gte
  | _ => none

/-- The items of lexemes. -/
def items : List Lexeme → Option (List Item)
  | [] => some []
  | .word .lparen :: rest => (items rest).map (.lparen :: ·)
  | .word .rparen :: rest => (items rest).map (.rparen :: ·)
  | .word .and :: rest => (items rest).map (.and :: ·)
  | .word .or :: rest => (items rest).map (.or :: ·)
  | .operand o :: .word .isNull :: rest => (items rest).map (.predicate (.isNull o false) :: ·)
  | .operand o :: .word .isNotNull :: rest => (items rest).map (.predicate (.isNull o true) :: ·)
  | .operand o :: .word .like :: .operand p :: .word .likeEscape :: rest =>
    (items rest).map (.predicate (.like o p false) :: ·)
  | .operand o :: .word .notLike :: .operand p :: .word .likeEscape :: rest =>
    (items rest).map (.predicate (.like o p true) :: ·)
  | .operand a :: .word w :: .operand b :: rest =>
    match comparison? w with
    | some op => (items rest).map (.predicate (.compare a op b) :: ·)
    | none => none
  | _ => none

end Search

/-- A search condition. -/
inductive Search where
  | predicate (p : Search.Predicate)
  | and (left right : Search)
  | or (left right : Search)
  deriving DecidableEq

namespace Search

/-- What has been read inside one pair of parentheses: the complete conjunctions, the one that goes on
and its last operand, which is missing where one is expected. -/
structure Frame where
  disjuncts : Option Search := none
  conjuncts : Option Search := none
  operand : Option Search := none

/-- One more conjunct. -/
def conjoin (before : Option Search) (s : Search) : Search :=
  match before with
  | none => s
  | some b => .and b s

/-- One more disjunct. -/
def disjoin (before : Option Search) (s : Search) : Search :=
  match before with
  | none => s
  | some b => .or b s

namespace Frame

/-- The condition read, unless an operand is missing. -/
def value? (f : Frame) : Option Search :=
  f.operand.map fun s => disjoin f.disjuncts (conjoin f.conjuncts s)

/-- The frame with the missing operand. -/
def put? (f : Frame) (s : Search) : Option Frame :=
  match f.operand with
  | none => some { f with operand := some s }
  | some _ => none

/-- The frame behind AND. -/
def and? (f : Frame) : Option Frame :=
  f.operand.map fun s => ⟨f.disjuncts, some (conjoin f.conjuncts s), none⟩

/-- The frame behind OR. -/
def or? (f : Frame) : Option Frame := f.value?.map fun s => ⟨some s, none, none⟩

end Frame

/-- Reads items behind those of a frame, inside the frames around it. -/
def run : List Item → Frame → List Frame → Option Search
  | [], f, [] => f.value?
  | [], _, _ :: _ => none
  | .predicate p :: rest, f, outer => (f.put? (.predicate p)).bind fun f => run rest f outer
  | .lparen :: rest, f, outer =>
    match f.operand with
    | none => run rest {} (f :: outer)
    | some _ => none
  | .rparen :: _, _, [] => none
  | .rparen :: rest, f, g :: outer =>
    (f.value?.bind g.put?).bind fun g => run rest g outer
  | .and :: rest, f, outer => f.and?.bind fun f => run rest f outer
  | .or :: rest, f, outer => f.or?.bind fun f => run rest f outer

/-- The items of tokens. -/
def itemsOf (ts : List Token) : Option (List Item) := (lexemes ts).bind items

/-- The search condition that tokens are read as. -/
def ofTokens? (ts : List Token) : Option Search := (itemsOf ts).bind fun is => run is {} []

/-! ## Truth -/

/-- What a condition is evaluated against: the columns by alias and name, and the parameters. -/
structure Context where
  server : Server
  column : Option String → String → Value
  params : Parameters

/-- The value of an operand. -/
def Operand.value? (ctx : Context) : Operand → Option Value
  | .column qualifier name => some (ctx.column qualifier name)
  | .placeholder name => ctx.params.value? name
  | .int n => some (.int (Int64.ofInt n))

/-- The comparisons of literal numbers. -/
def compareInts : Comparison → Int → Int → Bool
  | .eq, a, b => a == b
  | .ne, a, b => a != b
  | .lt, a, b => a < b
  | .gt, a, b => a > b
  | .lte, a, b => a ≤ b
  | .gte, a, b => a ≥ b

/-- The truth of a LIKE. -/
def likeTruth (server : Server) (subject pattern : Value) : Truth :=
  if subject = .null ∨ pattern = .null then .unknown
  else .ofBool (Like.holds (server.chars pattern) (server.chars subject))

/-- The truth of a predicate, unless a placeholder in it has no value. -/
def Predicate.truth? (ctx : Context) : Predicate → Option Truth
  | .compare (.int a) op (.int b) => some (.ofBool (compareInts op a b))
  | .compare left op right => do
    return ctx.server.compare op (← left.value? ctx) (← right.value? ctx)
  | .isNull o negated => (o.value? ctx).map fun v => .ofBool ((v = .null) ^^ negated)
  | .like subject pattern negated => do
    let t := likeTruth ctx.server (← subject.value? ctx) (← pattern.value? ctx)
    return if negated then t.not else t

/-- The truth of a search condition. -/
def truth? (ctx : Context) : Search → Option Truth
  | .predicate p => p.truth? ctx
  | .and left right => do return (← left.truth? ctx).and (← right.truth? ctx)
  | .or left right => do return (← left.truth? ctx).or (← right.truth? ctx)

/-! ## Reading piece by piece -/

attribute [local simp] lexemes items

/-- Are the tokens read as the items, whatever follows them? -/
def Reads (ts : List Token) (is : List Item) : Prop :=
  ∀ rest, itemsOf (ts ++ rest) = (itemsOf rest).map (is ++ ·)

/-- Are the tokens read as the lexemes, whatever follows them? -/
def Lexes (ts : List Token) (ls : List Lexeme) : Prop :=
  ∀ rest, lexemes (ts ++ rest) = (lexemes rest).map (ls ++ ·)

theorem Lexes.append {ts us : List Token} {ls ms : List Lexeme} (h : Lexes ts ls)
    (h' : Lexes us ms) : Lexes (ts ++ us) (ls ++ ms) := by
  intro rest
  rw [List.append_assoc, h, h', Option.map_map]
  simp only [Function.comp_def, List.append_assoc]

theorem Reads.append {ts us : List Token} {is js : List Item} (h : Reads ts is) (h' : Reads us js) :
    Reads (ts ++ us) (is ++ js) := by
  intro rest
  rw [List.append_assoc, h, h', Option.map_map]
  simp only [Function.comp_def, List.append_assoc]

theorem Reads.itemsOf {ts : List Token} {is : List Item} (h : Reads ts is) :
    itemsOf ts = some is := by
  have hnil := h []
  simpa [Search.itemsOf] using hnil

/-- Lexemes that are one item, whatever follows them, in tokens. -/
theorem Lexes.reads {ts : List Token} {ls : List Lexeme} {item : Item} (h : Lexes ts ls)
    (hitem : ∀ rest, items (ls ++ rest) = (items rest).map (item :: ·)) : Reads ts [item] := by
  intro rest
  rw [Search.itemsOf, h, Search.itemsOf]
  cases lexemes rest with
  | none => rfl
  | some ms => exact hitem ms

theorem lexes_space : Lexes [.word .space] [] := by
  intro rest
  simp

/-- A word alone. -/
theorem lexes_word {w : Word} (h : w ≠ .space) : Lexes [.word w] [.word w] := by
  intro rest
  cases w <;> first | exact absurd rfl h | simp

theorem lexes_spaced {w : Word} (h : w ≠ .space) : Lexes (Tokens.spaced w) [.word w] :=
  (lexes_word h).append lexes_space

theorem lexes_int (n : Int) : Lexes [.int n] [.operand (.int n)] := by
  intro rest
  simp

/-- The column of a member. -/
def columnOf (scope : Scope) (r : Resolved) : Operand :=
  .column (scope.alias? r.position) r.member.columnName

theorem lexes_column (scope : Scope) (r : Resolved) :
    Lexes (scope.column r) [.operand (columnOf scope r)] := by
  intro rest
  rw [Scope.column, columnOf]
  cases scope.alias? r.position <;> simp

theorem lexes_placeholder (ps : Parameters) (base : String) (value : Value)
    (member : Option Member) :
    Lexes [(ps.bind base value member).1] [.operand (.placeholder (ps.freshName base))] := by
  intro rest
  rw [Parameters.bind]
  dsimp only
  rw [Parameter.placeholder]
  split <;> simp [Parameters.entry]

theorem reads_lparen : Reads [.word .lparen] [.lparen] :=
  (lexes_word (by decide)).reads fun rest => by simp

theorem reads_rparen : Reads [.word .rparen] [.rparen] :=
  (lexes_word (by decide)).reads fun rest => by simp

theorem reads_space : Reads [.word .space] [] := by
  intro rest
  rw [itemsOf, lexes_space]
  simp [itemsOf]

theorem reads_and : Reads (Tokens.spaced .and) [.and] :=
  Lexes.reads (lexes_spaced (by decide)) fun rest => by simp

theorem reads_or : Reads (Tokens.spaced .or) [.or] :=
  Lexes.reads (lexes_spaced (by decide)) fun rest => by simp

theorem Reads.parenthesized {ts : List Token} {is : List Item} (h : Reads ts is) :
    Reads (Tokens.parenthesized ts) (Item.lparen :: is ++ [Item.rparen]) :=
  (reads_lparen.append h).append reads_rparen

/-- Two conditions in parentheses with a word between them. -/
theorem Reads.junction {ts us : List Token} {is js : List Item} {w : Word} {item : Item}
    (h : Reads ts is) (hw : Reads (Tokens.spaced w) [item]) (h' : Reads us js) :
    Reads (Tokens.parenthesized ts ++ [Token.word .space] ++ Tokens.spaced w ++ Tokens.parenthesized us)
      ((Item.lparen :: is ++ [Item.rparen]) ++ [item] ++ (Item.lparen :: js ++ [Item.rparen])) := by
  have hall := ((h.parenthesized.append reads_space).append hw).append h'.parenthesized
  rwa [List.append_nil] at hall

/-- A comparison of operands. -/
theorem reads_compare {ls us : List Token} {a b : Operand} (hl : Lexes ls [.operand a])
    (op : Comparison) (hu : Lexes us [.operand b]) :
    Reads (ls ++ [Token.word .space] ++ Tokens.spaced op.word ++ us) [.predicate (.compare a op b)] := by
  refine (((hl.append lexes_space).append (lexes_spaced ?_)).append hu).reads fun rest => ?_
  · cases op <;> decide
  · cases op <;> simp [Comparison.word, comparison?]

/-- A test for NULL. -/
theorem reads_isNull {ls : List Token} {o : Operand} (hl : Lexes ls [.operand o]) (negated : Bool) :
    Reads (ls ++ [Token.word .space] ++ [Token.word (if negated then .isNotNull else .isNull)])
      [.predicate (.isNull o negated)] := by
  cases negated with
  | false =>
    exact ((hl.append lexes_space).append (lexes_word (by decide))).reads fun rest => by
      simp
  | true =>
    exact ((hl.append lexes_space).append (lexes_word (by decide))).reads fun rest => by
      simp

/-- A LIKE. -/
theorem reads_like {ls us : List Token} {o p : Operand} (hl : Lexes ls [.operand o])
    (hu : Lexes us [.operand p]) (negated : Bool) :
    Reads (ls ++ [Token.word .space] ++ Tokens.spaced (if negated then .notLike else .like) ++
      (us ++ [Token.word .space, Token.word .likeEscape])) [.predicate (.like o p negated)] := by
  have hend : Lexes [.word .space, .word .likeEscape] [.word .likeEscape] :=
    lexes_space.append (lexes_word (by decide))
  cases negated with
  | false =>
    exact (((hl.append lexes_space).append (lexes_spaced (by decide))).append
      (hu.append hend)).reads fun rest => by simp
  | true =>
    exact (((hl.append lexes_space).append (lexes_spaced (by decide))).append
      (hu.append hend)).reads fun rest => by simp

/-! ## Filling a pair of parentheses -/

/-- Do the items, read behind an open parenthesis, make up the condition? -/
def Fills (is : List Item) (s : Search) : Prop :=
  ∃ f : Frame, f.value? = some s ∧ ∀ rest outer, run (is ++ rest) {} outer = run rest f outer

theorem Fills.ofTokens? {ts : List Token} {is : List Item} {s : Search} (h : Reads ts is)
    (hs : Fills is s) : ofTokens? ts = some s := by
  obtain ⟨f, hvalue, hrun⟩ := hs
  have hend := hrun [] []
  rw [List.append_nil] at hend
  rw [Search.ofTokens?, h.itemsOf, Option.bind_some, hend, run, hvalue]

theorem fills_predicate (p : Predicate) : Fills [.predicate p] (.predicate p) :=
  ⟨⟨none, none, some (.predicate p)⟩, rfl, fun _ _ => rfl⟩

/-- A condition in parentheses is an operand. -/
theorem Fills.run_parenthesized {is : List Item} {s : Search} (h : Fills is s) {f : Frame}
    (hf : f.operand = none) (rest : List Item) (outer : List Frame) :
    run (Item.lparen :: is ++ [Item.rparen] ++ rest) f outer =
      run rest { f with operand := some s } outer := by
  obtain ⟨g, hvalue, hrun⟩ := h
  have hput : f.put? s = some { f with operand := some s } := by rw [Frame.put?, hf]
  rw [List.append_assoc, List.cons_append, run, hf]
  dsimp only
  rw [hrun, List.singleton_append, run, hvalue, Option.bind_some, hput, Option.bind_some]

theorem Fills.parenthesized {is : List Item} {s : Search} (h : Fills is s) :
    Fills (Item.lparen :: is ++ [Item.rparen]) s :=
  ⟨⟨none, none, some s⟩, rfl, fun rest outer => h.run_parenthesized rfl rest outer⟩

/-- Two conditions in parentheses with AND between them. -/
theorem Fills.and {is js : List Item} {s t : Search} (h : Fills is s) (h' : Fills js t) :
    Fills ((Item.lparen :: is ++ [Item.rparen]) ++ [Item.and] ++ (Item.lparen :: js ++ [Item.rparen]))
      (.and s t) := by
  refine ⟨⟨none, some s, some t⟩, rfl, fun rest outer => ?_⟩
  rw [List.append_assoc, List.append_assoc, h.run_parenthesized rfl, List.singleton_append, run]
  exact h'.run_parenthesized (f := ⟨none, some s, none⟩) rfl rest outer

/-- Two conditions in parentheses with OR between them. -/
theorem Fills.or {is js : List Item} {s t : Search} (h : Fills is s) (h' : Fills js t) :
    Fills ((Item.lparen :: is ++ [Item.rparen]) ++ [Item.or] ++ (Item.lparen :: js ++ [Item.rparen]))
      (.or s t) := by
  refine ⟨⟨some s, none, some t⟩, rfl, fun rest outer => ?_⟩
  rw [List.append_assoc, List.append_assoc, h.run_parenthesized rfl, List.singleton_append, run]
  exact h'.run_parenthesized (f := ⟨some s, none, none⟩) rfl rest outer

/-- Predicates with AND or OR between one and the next. -/
def chain (negated : Bool) (p : Predicate) (ps : List Predicate) : List Item :=
  .predicate p :: ps.flatMap fun q => [if negated then .and else .or, .predicate q]

/-- Predicates that each stand behind the same item are read from the left, if reading one more of
them adds it to what was read before. -/
theorem exists_run_chain (item : Item) (combine : Search → Search → Search)
    (frame : Option Search → Search → Frame) (join : Option Search → Search → Search)
    (hvalue : ∀ before s, (frame before s).value? = some (join before s))
    (hjoin : ∀ before s t, join (some (join before s)) t = combine (join before s) t)
    (hrun : ∀ before s q rest outer, run (item :: .predicate q :: rest) (frame before s) outer =
      run rest (frame (some (join before s)) (.predicate q)) outer) (qs : List Predicate) :
    ∀ before s, ∃ f : Frame,
      f.value? = some ((qs.map Search.predicate).foldl combine (join before s)) ∧
      ∀ rest outer, run (qs.flatMap (fun q => [item, .predicate q]) ++ rest) (frame before s) outer =
        run rest f outer := by
  induction qs with
  | nil =>
    intro before s
    exact ⟨frame before s, hvalue before s, fun _ _ => rfl⟩
  | cons q qs ih =>
    intro before s
    obtain ⟨f, hf, hrest⟩ := ih (some (join before s)) (.predicate q)
    rw [hjoin] at hf
    exact ⟨f, hf, fun rest outer => (hrun before s q _ outer).trans (hrest rest outer)⟩

/-- A chain is read from the left. -/
theorem fills_chain (negated : Bool) (p : Predicate) (ps : List Predicate) :
    Fills (chain negated p ps)
      ((ps.map Search.predicate).foldl (if negated then .and else .or) (.predicate p)) := by
  cases negated with
  | false =>
    -- the frame holds a disjunction and its last disjunct
    obtain ⟨f, hvalue, hrun⟩ := exists_run_chain .or .or
      (fun before s => ⟨before, none, some s⟩) disjoin (fun _ _ => rfl) (fun _ _ _ => rfl)
      (fun _ _ _ _ _ => rfl) ps none (.predicate p)
    exact ⟨f, hvalue, fun rest outer => hrun rest outer⟩
  | true =>
    -- the frame holds a conjunction and its last conjunct
    obtain ⟨f, hvalue, hrun⟩ := exists_run_chain .and .and
      (fun before s => ⟨none, before, some s⟩) conjoin (fun _ _ => rfl) (fun _ _ _ => rfl)
      (fun _ _ _ _ _ => rfl) ps none (.predicate p)
    exact ⟨f, hvalue, fun rest outer => hrun rest outer⟩

end Rowgraph.Search
