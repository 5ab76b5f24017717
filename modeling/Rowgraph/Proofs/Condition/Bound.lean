import Rowgraph.Proofs.Agreement
import Rowgraph.Proofs.Command.Placeholders
import Rowgraph.Proofs.Condition.Involved

/-!
# The parameters a condition binds

Conditions share the parameters of their statement with one another and with assignments. Compiling one
leaves the parameters that are there where they are and adds its own behind them, under names that are
free, whether it succeeds or not (`compile_onlyAdds`); if it does, they are the parameters of its
placeholders. Which ones it adds does not depend on those that are there, but for their names: begun with
other parameters, the same expression binds the same values in the same order, and its condition differs in
the names of its placeholders only (`ofExpr_parameters`).
-/

set_option autoImplicit false

namespace Rowgraph

open Condition Tokens

/-! ## Parameters that are added -/

/-- Are the second parameters the first with more behind them, whose names are free and different? -/
def Parameters.GrowsTo (ps ps' : Parameters) : Prop :=
  ∃ new : List Parameter, ps' = { ps with entries := ps.entries ++ new } ∧
    (new.map (·.name)).Nodup ∧ ∀ p ∈ new, p.name ∉ ps.names

namespace Parameters.GrowsTo

variable {ps ps₁ ps' : Parameters}

theorem refl (ps : Parameters) : ps.GrowsTo ps :=
  ⟨[], by rw [List.append_nil], List.nodup_nil, fun p hp => absurd hp List.not_mem_nil⟩

theorem trans (h : ps.GrowsTo ps₁) (h' : ps₁.GrowsTo ps') : ps.GrowsTo ps' := by
  obtain ⟨new, rfl, hnodup, hfree⟩ := h
  obtain ⟨more, rfl, hnodup', hfree'⟩ := h'
  have hapart : ∀ p ∈ more, p.name ∉ ps.names ∧ p.name ∉ new.map (·.name) := by
    intro p hp
    have hboth := hfree' p hp
    rw [names, List.map_append, List.mem_append, not_or] at hboth
    exact hboth
  refine ⟨new ++ more, by rw [List.append_assoc], ?_, ?_⟩
  · rw [List.map_append, List.nodup_append]
    refine ⟨hnodup, hnodup', fun a ha b hb hab => ?_⟩
    obtain ⟨p, hp, rfl⟩ := List.mem_map.1 hb
    exact (hapart p hp).2 (hab ▸ ha)
  · intro p hp
    rcases List.mem_append.1 hp with hp | hp
    · exact hfree p hp
    · exact (hapart p hp).1

theorem bind (ps : Parameters) (base : String) (value : Value) (member : Option Member) :
    ps.GrowsTo (ps.bind base value member).2 := by
  refine ⟨[ps.entry base value member], rfl, List.nodup_singleton _, fun p hp => ?_⟩
  rw [List.mem_singleton.1 hp, ← contains_iff]
  exact Bool.eq_false_iff.1 (not_contains_freshName ps base)

end Parameters.GrowsTo

namespace Condition

variable {α β : Type} {scope : Scope}

/-- Does the step only add parameters, however it ends? -/
def OnlyAdds (x : ConditionM α) : Prop :=
  ∀ s : ConditionState, s.params.GrowsTo (x.run.run s).2.params

namespace OnlyAdds

variable {x : ConditionM α}

theorem pure (a : α) : OnlyAdds (pure a : ConditionM α) := fun s => .refl s.params

theorem throw (e : Error) : OnlyAdds (throw e : ConditionM α) := fun s => .refl s.params

theorem lift (x : Except Error α) : OnlyAdds (liftM x : ConditionM α) := by
  intro s
  cases x <;> exact .refl s.params

theorem bind {f : α → ConditionM β} (h : OnlyAdds x) (hf : ∀ a, OnlyAdds (f a)) :
    OnlyAdds (x >>= f) := by
  intro s
  have hx := h s
  simp only [ExceptT.run_bind, StateT.run_bind]
  rcases hrun : x.run.run s with ⟨_ | a, s₁⟩
  · rw [hrun] at hx
    exact hx
  · rw [hrun] at hx
    exact hx.trans (hf a s₁)

end OnlyAdds

theorem bindFor_onlyAdds (m : Member) (value : Value) : OnlyAdds (bindFor m value) :=
  fun s => .bind s.params m.name value (some m)

theorem read_onlyAdds (ref : MemberRef) : OnlyAdds (read scope ref) := by
  refine (OnlyAdds.lift _).bind fun r => .bind (fun s => ?_) fun _ => .pure r
  change s.params.GrowsTo (s.noting r).params
  rw [noting_params]
  exact .refl s.params

theorem comparison_onlyAdds (left : Expr) (op : Comparison) (right : Expr) (composite : Bool) :
    OnlyAdds (comparison scope left op right composite) := by
  refine (OnlyAdds.lift _).bind fun ref => (read_onlyAdds ref).bind fun r => ?_
  split
  · cases composite with
    | true => exact .throw _
    | false => cases op <;> first | exact .pure _ | exact .throw _
  · exact (bindFor_onlyAdds _ _).bind fun _ => .pure _
  · exact (read_onlyAdds _).bind fun _ => .pure _
  · exact .throw _

theorem like_onlyAdds (ref : MemberRef) (arg : Expr) (place : Place) (negated : Bool) :
    OnlyAdds (like scope ref arg place negated) := by
  rw [like]
  split
  · exact (read_onlyAdds ref).bind fun r => (bindFor_onlyAdds _ _).bind fun _ => .pure _
  · exact .throw _

theorem elements_onlyAdds (column : List Token) (m : Member) (negated : Bool) (values : List Value) :
    OnlyAdds (elements column m negated values) := by
  induction values with
  | nil => exact .pure []
  | cons value rest ih =>
    rw [elements]
    cases value.isNull with
    | true => exact (OnlyAdds.pure _).bind fun _ => ih.bind fun _ => .pure _
    | false =>
      exact (bindFor_onlyAdds m value).bind fun _ => (OnlyAdds.pure _).bind fun _ =>
        ih.bind fun _ => .pure _

theorem membership_onlyAdds (values : List Value) (arg : Expr) (negated : Bool) :
    OnlyAdds (membership scope values arg negated) := by
  refine (OnlyAdds.lift _).bind fun ref => (read_onlyAdds ref).bind fun r => ?_
  split
  · exact .pure _
  · exact (elements_onlyAdds _ _ _ _).bind fun _ => .pure _

theorem call_onlyAdds (target : Expr) (method : Method) (arg : Expr) (negated composite : Bool) :
    OnlyAdds (call scope target method arg negated composite) := by
  rw [call.eq_def]
  split
  · exact comparison_onlyAdds _ _ _ _
  · exact membership_onlyAdds _ _ _
  · split
    · exact .throw _
    · exact like_onlyAdds _ _ _ _
  · exact like_onlyAdds _ _ _ _
  · exact like_onlyAdds _ _ _ _
  · exact .throw _
  · exact .throw _

theorem junction_onlyAdds (w : Word) {left right : ConditionM (List Token)} (hl : OnlyAdds left)
    (hr : OnlyAdds right) (negated : Bool) : OnlyAdds (junction w left right negated) := by
  rw [junction]
  split
  · exact .throw _
  · exact hl.bind fun _ => hr.bind fun _ => .pure _

/-- Compiling leaves the parameters that are there, whether it succeeds or not. -/
theorem compile_onlyAdds (scope : Scope) (e : Expr) :
    ∀ negated composite, OnlyAdds (compile scope e negated composite) := by
  induction e with
  | and left right ihl ihr =>
    exact fun negated _ => junction_onlyAdds .and (ihl false true) (ihr false true) negated
  | or left right ihl ihr =>
    exact fun negated _ => junction_onlyAdds .or (ihl false true) (ihr false true) negated
  | not inner ih => exact fun negated composite => ih (!negated) composite
  | convert inner ih => exact ih
  | compare left op right => exact fun _ composite => comparison_onlyAdds left _ right composite
  | call target method arg => exact fun negated composite => call_onlyAdds target method arg negated composite
  | member ref => exact fun negated _ => (read_onlyAdds ref).bind fun _ => .pure _
  | _ => exact fun _ _ => .throw _

theorem ofExpr_growsTo (scope : Scope) (e : Expr) (ps : Parameters) :
    ps.GrowsTo (ofExpr scope e ps).2 := compile_onlyAdds scope e false false ⟨ps, []⟩

end Condition

/-! ## Parameters with other names -/

/-- Do two parameters differ in their names only? -/
structure Parameter.SameButName (p p' : Parameter) : Prop where
  value : p.value = p'.value
  textType : p.textType = p'.textType
  inline : p.inline = p'.inline

/-- The token without the name that a placeholder has. -/
def Token.unnamed : Token → Token
  | .param _ => .param ""
  | .inlineParam _ => .inlineParam ""
  | t => t

/-- The tokens with their placeholders renamed, one after the other. -/
def Tokens.renamed : List Token → List String → List Token
  | [], _ => []
  | t :: rest, names =>
    match t, names with
    | .param _, name :: names => .param name :: renamed rest names
    | .inlineParam _, name :: names => .inlineParam name :: renamed rest names
    | t, names => t :: renamed rest names

theorem Token.eq_of_unnamed_eq {t u : Token} (h : t.unnamed = u.unnamed) :
    (t = u ∧ u.placeholder? = none) ∨ (∃ name name', t = .param name ∧ u = .param name') ∨
      ∃ name name', t = .inlineParam name ∧ u = .inlineParam name' := by
  cases t with
  | param name =>
    cases u with
    | param name' => exact Or.inr (Or.inl ⟨name, name', rfl, rfl⟩)
    | _ => cases h
  | inlineParam name =>
    cases u with
    | inlineParam name' => exact Or.inr (Or.inr ⟨name, name', rfl, rfl⟩)
    | _ => cases h
  | _ =>
    cases u with
    | param name' => cases h
    | inlineParam name' => cases h
    | _ => exact Or.inl ⟨h, rfl⟩

theorem Tokens.renamed_cons {t : Token} (h : t.placeholder? = none) (ts : List Token)
    (names : List String) : renamed (t :: ts) names = t :: renamed ts names := by
  cases t with
  | param name => cases h
  | inlineParam name => cases h
  | _ => rfl

/-- Tokens that differ in the names of placeholders only are the same when these are renamed. -/
theorem Tokens.renamed_eq {ts us : List Token} (h : ts.map Token.unnamed = us.map Token.unnamed) :
    renamed ts (us.filterMap Token.placeholder?) = us := by
  induction ts generalizing us with
  | nil =>
    cases us with
    | nil => rfl
    | cons u us => cases h
  | cons t ts ih =>
    cases us with
    | nil => cases h
    | cons u us =>
      rw [List.map_cons, List.map_cons, List.cons.injEq] at h
      have hrest := ih h.2
      rcases Token.eq_of_unnamed_eq h.1 with ⟨rfl, hnone⟩ | ⟨name, name', rfl, rfl⟩ | ⟨name, name', rfl, rfl⟩
      · rw [List.filterMap_cons_none hnone, renamed_cons hnone, hrest]
      · exact congrArg (Token.param name' :: ·) hrest
      · exact congrArg (Token.inlineParam name' :: ·) hrest

/-- The names of the placeholders among tokens. -/
theorem Tokens.filterMap_placeholder? {ts : List Token} {new : List Parameter}
    (h : placeholders ts = new.map Parameter.placeholder) :
    ts.filterMap Token.placeholder? = new.map (·.name) := by
  have hnames : (placeholders ts).filterMap Token.placeholder? = new.map (·.name) := by
    rw [h, List.filterMap_map, ← List.filterMap_eq_map]
    exact congrArg (List.filterMap · new) (funext fun p => placeholder?_placeholder p)
  rw [← hnames, placeholders, List.filterMap_filter]
  refine List.filterMap_congr fun t _ => ?_
  rw [Token.isPlaceholder]
  cases t.placeholder? <;> rfl

/-! ## Writing twice -/

/-- Two parts of statements with other parameters before them: are they the same in `shape`, and have they
added parameters that differ in their names only? -/
structure SameButNames {α β : Type} (shape : α → β) (ps qs : Parameters) (x y : α × Parameters) :
    Prop where
  shape : shape x.1 = shape y.1
  inlineNumbers : x.2.inlineNumbers = y.2.inlineNumbers
  added : ∃ new new', x.2.entries = ps.entries ++ new ∧ y.2.entries = qs.entries ++ new' ∧
    List.Forall₂ Parameter.SameButName new new'

namespace SameButNames

variable {α β γ δ ε ζ : Type} {shape : α → β} {ps qs ps₁ qs₁ ps₂ qs₂ : Parameters} {a b : α}

/-- What adds no parameters. -/
theorem none (hinline : ps.inlineNumbers = qs.inlineNumbers) (h : shape a = shape b) :
    SameButNames shape ps qs (a, ps) (b, qs) where
  shape := h
  inlineNumbers := hinline
  added := ⟨[], [], (List.append_nil _).symm, (List.append_nil _).symm, .nil⟩

/-- One part and then another. -/
theorem append {shape' : γ → δ} {shape'' : ε → ζ} {c d : γ} {e f : ε}
    (h : SameButNames shape ps qs (a, ps₁) (b, qs₁))
    (h' : SameButNames shape' ps₁ qs₁ (c, ps₂) (d, qs₂))
    (hboth : shape a = shape b → shape' c = shape' d → shape'' e = shape'' f) :
    SameButNames shape'' ps qs (e, ps₂) (f, qs₂) where
  shape := hboth h.shape h'.shape
  inlineNumbers := h'.inlineNumbers
  added := by
    obtain ⟨new, new', hnew, hnew', hsame⟩ := h.added
    obtain ⟨more, more', hmore, hmore', hsame'⟩ := h'.added
    refine ⟨new ++ more, new' ++ more', ?_, ?_, List.rel_append hsame hsame'⟩
    · rw [hmore, hnew, List.append_assoc]
    · rw [hmore', hnew', List.append_assoc]

/-- The same part in another shape. -/
theorem map {shape' : γ → δ} {c d : γ} (h : SameButNames shape ps qs (a, ps₁) (b, qs₁))
    (hshape : shape a = shape b → shape' c = shape' d) :
    SameButNames shape' ps qs (c, ps₁) (d, qs₁) where
  shape := hshape h.shape
  inlineNumbers := h.inlineNumbers
  added := h.added

end SameButNames

/-- A value that is bound with other parameters gets another name. -/
theorem bind_sameButNames {ps qs : Parameters} (hinline : ps.inlineNumbers = qs.inlineNumbers)
    (base : String) (value : Value) (member : Option Member) :
    SameButNames Token.unnamed ps qs (ps.bind base value member) (qs.bind base value member) where
  shape := by
    have hentry : (ps.entry base value member).inline = (qs.entry base value member).inline := by
      rw [Parameters.entry, Parameters.entry, hinline]
    change Token.unnamed (Parameter.placeholder _) = Token.unnamed (Parameter.placeholder _)
    rw [Parameter.placeholder, Parameter.placeholder, hentry]
    split <;> rfl
  inlineNumbers := hinline
  added := by
    refine ⟨[ps.entry base value member], [qs.entry base value member], rfl, rfl, .cons ⟨rfl, rfl, ?_⟩ .nil⟩
    rw [Parameters.entry, Parameters.entry, hinline]

/-- Tokens without the names in placeholders. -/
def Tokens.unnamed (ts : List Token) : List Token := ts.map Token.unnamed

theorem unnamed_append (ts us : List Token) : unnamed (ts ++ us) = unnamed ts ++ unnamed us :=
  List.map_append

theorem unnamed_parenthesized (ts : List Token) :
    unnamed (parenthesized ts) = parenthesized (unnamed ts) := by
  simp [unnamed, parenthesized, Token.unnamed]

namespace Condition

variable {scope : Scope} {s s' : ConditionState}

theorem unnamed_joined (w : Word) (tests : List (List Token)) :
    unnamed (joined w tests) = joined w (tests.map unnamed) := by
  induction tests with
  | nil => rfl
  | cons test tests ih =>
    cases tests with
    | nil => rfl
    | cons next tests =>
      rw [joined, unnamed_append, ih]
      simp [joined, unnamed, spaced, Token.unnamed]

/-- The value of a test is written alike with other parameters. -/
theorem binding_sameButNames (h : s.params.inlineNumbers = s'.params.inlineNumbers) (m : Member)
    (value : Value) :
    SameButNames Token.unnamed s.params s'.params
      ((s.binding m value).1, (s.binding m value).2.params)
      ((s'.binding m value).1, (s'.binding m value).2.params) :=
  bind_sameButNames h m.name value (some m)

theorem emitElements_sameButNames (column : List Token) (m : Member) (negated : Bool)
    (values : List Value) :
    ∀ {s s' : ConditionState}, s.params.inlineNumbers = s'.params.inlineNumbers →
      SameButNames (List.map unnamed) s.params s'.params
        ((emitElements column m negated values s).1, (emitElements column m negated values s).2.params)
        ((emitElements column m negated values s').1,
          (emitElements column m negated values s').2.params) := by
  induction values with
  | nil => exact fun h => .none h rfl
  | cons value rest ih =>
    intro s s' h
    rw [emitElements, emitElements]
    cases value.isNull with
    | true => exact (ih h).map fun hrest => congrArg (_ :: ·) hrest
    | false =>
      have hbinding := binding_sameButNames h m value
      refine hbinding.append (ih hbinding.inlineNumbers) fun hvalue hrest => ?_
      simp only [Bool.false_eq_true, if_false, List.map_cons, hrest, unnamed_append]
      simp [unnamed, hvalue]

/-- A test is written alike with other parameters. -/
theorem Check.emit_sameButNames (c : Check) (h : s.params.inlineNumbers = s'.params.inlineNumbers) :
    SameButNames unnamed s.params s'.params ((c.emit scope s).1, (c.emit scope s).2.params)
      ((c.emit scope s').1, (c.emit scope s').2.params) := by
  have hnoting : ∀ r, (s.noting r).params.inlineNumbers = (s'.noting r).params.inlineNumbers := by
    intro r
    rw [noting_params, noting_params, h]
  cases c with
  | compare r op value =>
    have hbinding := binding_sameButNames (hnoting r) r.member value
    rw [noting_params, noting_params] at hbinding
    refine hbinding.map fun hvalue => ?_
    simp [emit, unnamed, hvalue]
  | compareMember r op r' =>
    simp only [emit, noting_params]
    exact .none h rfl
  | isNull r negated =>
    simp only [emit, noting_params]
    exact .none h rfl
  | like r place text negated =>
    have hbinding := binding_sameButNames (hnoting r) r.member (.text (Like.pattern place text))
    rw [noting_params, noting_params] at hbinding
    refine hbinding.map fun hvalue => ?_
    simp [emit, unnamed, hvalue]
  | among r elements negated =>
    rw [emit, emit]
    split
    · simp only [noting_params]
      exact .none h rfl
    · have htests := emitElements_sameButNames (scope.column r) r.member negated elements (hnoting r)
      rw [noting_params, noting_params] at htests
      refine htests.map fun hsame => ?_
      dsimp only
      rw [unnamed_parenthesized, unnamed_parenthesized, unnamed_joined, unnamed_joined, hsame]
  | flag r negated =>
    simp only [emit, noting_params]
    exact .none h rfl

/-- A condition is written alike with other parameters. -/
theorem Plan.emit_sameButNames (scope : Scope) (p : Plan) :
    ∀ s s' : ConditionState, s.params.inlineNumbers = s'.params.inlineNumbers →
      SameButNames unnamed s.params s'.params ((p.emit scope s).1, (p.emit scope s).2.params)
        ((p.emit scope s').1, (p.emit scope s').2.params) := by
  induction p with
  | check c => exact fun _ _ => c.emit_sameButNames
  | and left right hl hr =>
    intro s s' h
    have hfirst := hl s s' h
    refine hfirst.append (hr _ _ hfirst.inlineNumbers) fun hleft hright => ?_
    simp only [emit, unnamed_append, unnamed_parenthesized, hleft, hright]
  | or left right hl hr =>
    intro s s' h
    have hfirst := hl s s' h
    refine hfirst.append (hr _ _ hfirst.inlineNumbers) fun hleft hright => ?_
    simp only [emit, unnamed_append, unnamed_parenthesized, hleft, hright]

/-! ## The same expression with other parameters -/

section Compiled

variable {e : Expr} {ps : Parameters}

theorem ofExpr_of_plan? {p : Plan} (h : e.plan? scope false false = some p) (ps : Parameters) :
    ofExpr scope e ps = (.ok ⟨(p.emit scope ⟨ps, []⟩).1, (p.emit scope ⟨ps, []⟩).2.members⟩,
      (p.emit scope ⟨ps, []⟩).2.params) := ofExpr_iff.2 ⟨p, h, rfl⟩

/-- An expression without tests is refused, whatever parameters there are. -/
theorem ofExpr_of_plan?_eq_none (h : e.plan? scope false false = none) (ps : Parameters) :
    ∃ cause, (ofExpr scope e ps).1 = .error cause := by
  cases hresult : (ofExpr scope e ps).1 with
  | error cause => exact ⟨cause, rfl⟩
  | ok c =>
    obtain ⟨p, hplan, -⟩ := ofExpr_iff.1 (Prod.ext hresult rfl)
    rw [h] at hplan
    cases hplan

/-- The parameters that were added are those of the placeholders. -/
theorem placeholders_ofExpr {new : List Parameter} {c : Condition}
    (hnew : (ofExpr scope e ps).2 = { ps with entries := ps.entries ++ new })
    (h : (ofExpr scope e ps).1 = .ok c) : placeholders c.tokens = new.map Parameter.placeholder := by
  obtain ⟨more, hmore, hwritten⟩ := (ofExpr_writes (Prod.ext h hnew)).added
  rw [hwritten, ← List.append_cancel_left hmore]

/-- Compiling an expression keeps the parameters that are there and adds others behind them, whether it
succeeds or not. A condition has the placeholders of those that were added, each once and in order. And
begun with other parameters, the same expression is compiled or refused alike: it reads the same members,
adds the same values, and the conditions are the same when placeholders are renamed one after the other. -/
theorem ofExpr_parameters (scope : Scope) (e : Expr) (ps : Parameters) :
    ∃ new : List Parameter,
      (ofExpr scope e ps).2 = { ps with entries := ps.entries ++ new } ∧
      (new.map (·.name)).Nodup ∧ (∀ p ∈ new, p.name ∉ ps.names) ∧
      (∀ c, (ofExpr scope e ps).1 = .ok c →
        placeholders c.tokens = new.map Parameter.placeholder) ∧
      ∀ qs : Parameters, qs.inlineNumbers = ps.inlineNumbers →
        ∃ new' : List Parameter,
          (ofExpr scope e qs).2 = { qs with entries := qs.entries ++ new' } ∧
          Agree (fun c d => c.members = d.members ∧
              List.Forall₂ Parameter.SameButName new new' ∧
              d.tokens = renamed c.tokens (new'.map (·.name)))
            (ofExpr scope e ps).1 (ofExpr scope e qs).1 := by
  obtain ⟨new, hnew, hnodup, hfree⟩ := ofExpr_growsTo scope e ps
  refine ⟨new, hnew, hnodup, hfree, fun c => placeholders_ofExpr hnew, fun qs hinline => ?_⟩
  obtain ⟨new', hnew', -, -⟩ := ofExpr_growsTo scope e qs
  refine ⟨new', hnew', ?_⟩
  cases hplan : e.plan? scope false false with
  | none =>
    obtain ⟨cause, hps⟩ := ofExpr_of_plan?_eq_none hplan ps
    obtain ⟨cause', hqs⟩ := ofExpr_of_plan?_eq_none hplan qs
    rw [hps, hqs]
    exact .error cause cause'
  | some p =>
    have hps := ofExpr_of_plan? hplan ps
    have hqs := ofExpr_of_plan? hplan qs
    have hwritten := placeholders_ofExpr hnew' (congrArg Prod.fst hqs)
    have hsame : SameButNames unnamed ps qs _ _ :=
      p.emit_sameButNames scope ⟨ps, []⟩ ⟨qs, []⟩ hinline.symm
    -- what the two emissions add in step is what compiling was seen to add
    obtain ⟨more, more', hmore, hmore', hparameters⟩ := hsame.added
    rw [hps] at hnew ⊢
    rw [hqs] at hnew' ⊢
    have hfirst : more = new :=
      List.append_cancel_left (hmore.symm.trans (congrArg Parameters.entries hnew))
    have hsecond : more' = new' :=
      List.append_cancel_left (hmore'.symm.trans (congrArg Parameters.entries hnew'))
    rw [hfirst, hsecond] at hparameters
    refine .ok ⟨?_, hparameters, ?_⟩
    · exact (p.members_emit scope _ [] rfl).trans (p.members_emit scope _ [] rfl).symm
    · rw [← filterMap_placeholder? hwritten]
      exact (renamed_eq hsame.shape).symm

end Compiled

/-- A pupil of a name, with one of two numbers. -/
def pupilFilter : Expr :=
  .and (.compare (.member ⟨0, "Name"⟩) .eq (.value (.text "Ada")))
    (.call (.list [.int 7, .null, .int 9]) .contains (.member ⟨0, "Id"⟩))

/-- Numbers are inline, and the name of the first number is taken. -/
def idTaken : Parameters :=
  { inlineNumbers := true, entries := [⟨"Id", .bool true, none, false⟩] }

theorem ofExpr_parameters_pupil :
    ∃ new : List Parameter,
      (ofExpr (.single pupil) pupilFilter idTaken).2 =
        { idTaken with entries := idTaken.entries ++ new } ∧
      (new.map (·.name)).Nodup ∧ (∀ p ∈ new, p.name ∉ idTaken.names) ∧
      (∃ c, (ofExpr (.single pupil) pupilFilter idTaken).1 = .ok c ∧
        placeholders c.tokens = new.map Parameter.placeholder) ∧
      ({ inlineNumbers := true } : Parameters).inlineNumbers = idTaken.inlineNumbers ∧
      ∃ new' : List Parameter,
        (ofExpr (.single pupil) pupilFilter { inlineNumbers := true }).2 =
          { inlineNumbers := true, entries := new' } ∧
        Agree (fun c d => c.members = d.members ∧
            List.Forall₂ Parameter.SameButName new new' ∧
            d.tokens = renamed c.tokens (new'.map (·.name)))
          (ofExpr (.single pupil) pupilFilter idTaken).1
          (ofExpr (.single pupil) pupilFilter { inlineNumbers := true }).1 := by
  obtain ⟨new, hnew, hnodup, hfree, hwritten, htwo⟩ :=
    ofExpr_parameters (.single pupil) pupilFilter idTaken
  have hinline : ({ inlineNumbers := true } : Parameters).inlineNumbers = idTaken.inlineNumbers := rfl
  exact ⟨new, hnew, hnodup, hfree, ⟨_, rfl, hwritten _ rfl⟩, hinline, htwo _ hinline⟩

end Condition

end Rowgraph
