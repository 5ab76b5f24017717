import Rowgraph.Inline
import Rowgraph.Proofs.Parameter
import Rowgraph.Proofs.Text.Reading

/-!
# Expansion of inline placeholders

A text begins with a placeholder just where `{=`, a name and `}` stand (`Inline.placeholder?_eq_some_iff`). The
search for placeholders sees only the characters of a statement and knows nothing of its tokens. It finds the same
ones: the expanded text is the text of the tokens in which each placeholder of a known name is its literal and all
else is as it was (`Parameters.expand_text`). Only two things are asked of the tokens. Names are such as a
placeholder may have, and no other token writes an opening brace.
-/

set_option autoImplicit false

namespace Rowgraph

namespace Inline

variable {ps : Parameters} {cs name rest : List Char}

/-- May a placeholder have the name? It begins with a letter or an underscore; digits may follow. -/
def isName : List Char → Bool
  | [] => false
  | c :: cs => isNameStart c && cs.all isNamePart

theorem isNamePart_close : isNamePart '\x7d' = false := rfl

/-- A name is read up to the brace that closes the placeholder. -/
theorem nameOf?_name (h : isName name = true) (rest : List Char) :
    nameOf? (name ++ '\x7d' :: rest) = some (name, rest) := by
  cases name with
  | nil => cases h
  | cons c cs =>
    rw [isName, Bool.and_eq_true, List.all_eq_true] at h
    have hstop : ∀ d ∈ ('\x7d' :: rest).head?, isNamePart d = false := by
      rintro d ⟨⟩
      exact isNamePart_close
    rw [List.cons_append, nameOf?, if_pos h.1, dropWhile_run h.2 hstop, takeWhile_run h.2 hstop]
    rfl

/-- What is read as a name is one, and a closing brace is behind it. -/
theorem eq_of_nameOf? (h : nameOf? cs = some (name, rest)) :
    isName name = true ∧ cs = name ++ '\x7d' :: rest := by
  unfold nameOf? at h
  split at h
  · cases h
  · next c tail =>
    split at h
    · next hstart =>
      split at h
      · next after hdrop =>
        cases h
        refine ⟨?_, ?_⟩
        · rw [isName, hstart, Bool.true_and]
          exact List.all_takeWhile
        · rw [List.cons_append, ← hdrop, List.takeWhile_append_dropWhile]
      · cases h
    · cases h

/-- A text begins with a placeholder just where its braces, the sign and a name stand. -/
theorem placeholder?_eq_some_iff :
    placeholder? cs = some (name, rest) ↔
      isName name = true ∧ cs = '\x7b' :: '=' :: (name ++ '\x7d' :: rest) := by
  constructor
  · intro h
    unfold placeholder? at h
    split at h
    · obtain ⟨hname, rfl⟩ := eq_of_nameOf? h
      exact ⟨hname, rfl⟩
    · cases h
  · rintro ⟨hname, rfl⟩
    exact nameOf?_name hname rest

/-- Characters that are no opening brace are left as they are, whatever is behind them. -/
theorem expandChars_append (h : '\x7b' ∉ cs) (rest : List Char) :
    expandChars ps (cs ++ rest) = cs ++ expandChars ps rest := by
  induction cs with
  | nil => rfl
  | cons c cs ih =>
    rw [List.mem_cons, not_or] at h
    obtain ⟨hc, hcs⟩ := h
    -- a placeholder would begin with the brace
    have hnone : placeholder? (c :: (cs ++ rest)) = none := by
      rw [Option.eq_none_iff_forall_ne_some]
      rintro ⟨name, after⟩ hsome
      obtain ⟨-, heq⟩ := placeholder?_eq_some_iff.1 hsome
      exact hc (List.cons.inj heq).1.symm
    rw [List.cons_append, expandChars]
    split
    · next hsome =>
      rw [hnone] at hsome
      cases hsome
    · rw [ih hcs, List.cons_append]

/-- A placeholder is replaced, and the search goes on behind it and not in what replaces it. -/
theorem expandChars_placeholder (h : isName name = true) (rest : List Char) :
    expandChars ps ('\x7b' :: '=' :: (name ++ '\x7d' :: rest)) = valueOf ps name ++ expandChars ps rest := by
  have hsome : placeholder? ('\x7b' :: '=' :: (name ++ '\x7d' :: rest)) = some (name, rest) :=
    placeholder?_eq_some_iff.2 ⟨h, rfl⟩
  rw [expandChars]
  split
  · next hread =>
    rw [hsome] at hread
    cases hread
    rfl
  · next hnone =>
    rw [hsome] at hnone
    cases hnone

end Inline

namespace Token

/-- What a token is once the placeholders are replaced: the literal of its parameter if it is an inline placeholder
and the parameter is there, and else what it was. -/
def expanded (ps : Parameters) : Token → List Char
  | .inlineParam name => ((ps.value? name).map Value.literalChars).getD (Token.inlineParam name).chars
  | t => t.chars

/-- Is the token an inline placeholder that can be found, or one that cannot be taken for the beginning of any? -/
def Plain : Token → Prop
  | .inlineParam name => Inline.isName name.toList = true
  | t => '\x7b' ∉ t.chars

/-- The expansion of a text begins with that of its first token. -/
theorem expandChars_chars (ps : Parameters) {t : Token} (h : t.Plain) (rest : List Char) :
    Inline.expandChars ps (t.chars ++ rest) = t.expanded ps ++ Inline.expandChars ps rest := by
  cases t with
  | inlineParam name =>
    have hvalue : Inline.valueOf ps name.toList = (Token.inlineParam name).expanded ps := by
      rw [Inline.valueOf, String.ofList_toList, expanded, Parameters.value?]
      cases ps.find? name <;> rfl
    rw [← hvalue, ← Inline.expandChars_placeholder h rest]
    simp [chars]
  | _ => exact Inline.expandChars_append h rest

end Token

namespace Parameters

/-- The text of a statement with its placeholders expanded is the text of its tokens, each expanded on its own. -/
theorem expand_text (ps : Parameters) (ts : List Token) (h : ∀ t ∈ ts, t.Plain) :
    ps.expand (Tokens.text ts) = String.ofList (ts.flatMap (Token.expanded ps)) := by
  rw [expand, Tokens.text, String.toList_ofList]
  congr 1
  -- what is put in for a token is behind the search once the next token is looked at
  induction ts with
  | nil => rw [List.flatMap_nil, List.flatMap_nil, Inline.expandChars]
  | cons t ts ih =>
    have htail : ∀ u ∈ ts, u.Plain := fun u hu => h u (List.mem_cons_of_mem t hu)
    rw [List.flatMap_cons, List.flatMap_cons, Token.expandChars_chars ps (h t List.mem_cons_self), ih htail]

/-- Two placeholders without anything between them, the name of one the beginning of the other's, and one of no
parameter. The text that is put in for the second holds a placeholder itself, which stays. -/
theorem expand_text_adjacent :
    let ps : Parameters :=
      ⟨false, [⟨"Id", .int 7, none, true⟩, ⟨"Id1", .text "\x7b=Id\x7d", none, false⟩]⟩
    let ts : List Token := [.inlineParam "Id1", .inlineParam "Id", .word .eq, .inlineParam "Other"]
    (∀ t ∈ ts, t.Plain) ∧ ps.expand (Tokens.text ts) = "N'\x7b=Id\x7d'7=\x7b=Other\x7d" := by
  intro ps ts
  have hsign : '\x7b' ∉ (Token.word .eq).chars := by decide
  have hplain : ∀ t ∈ ts, t.Plain := by
    rw [List.forall_mem_cons, List.forall_mem_cons, List.forall_mem_cons, List.forall_mem_singleton]
    exact ⟨rfl, rfl, hsign, rfl⟩
  exact ⟨hplain, (expand_text ps ts hplain).trans rfl⟩

end Parameters

end Rowgraph
