import Mathlib.Data.List.DropRight
import Rowgraph.Proofs.Text.Letters
import Rowgraph.Unicode.Blank

/-!
# Blanks around a text

A text is trimmed where it neither begins nor ends with white space (`Unicode.IsTrimmed`). Whatever blanks are put
around it (`Unicode.Pads`), trimming gives it back (`trim_of_pads`), and nothing else can be what is inside the
blanks. Letters are no blanks, so the case of a text does not matter to it (`isTrimmed_toLower_iff`).
-/

set_option autoImplicit false

namespace Rowgraph.Unicode

/-- Does no white space stand at either end? -/
structure IsTrimmed (cs : List Char) : Prop where
  first : ∀ c ∈ cs.head?, isBlank c = false
  last : ∀ c ∈ cs.getLast?, isBlank c = false

theorem isTrimmed_iff {cs : List Char} :
    IsTrimmed cs ↔ (cs.head?.all (!isBlank ·) && cs.getLast?.all (!isBlank ·)) = true := by
  simp only [Bool.and_eq_true, Option.all_eq_true, Bool.not_eq_true']
  exact ⟨fun h => ⟨h.first, h.last⟩, fun h => ⟨h.1, h.2⟩⟩

instance (cs : List Char) : Decidable (IsTrimmed cs) := decidable_of_iff _ isTrimmed_iff.symm

/-- Is the text another one with blanks around it? -/
def Pads (padded cs : List Char) : Prop :=
  ∃ before behind, padded = before ++ (cs ++ behind) ∧ (∀ c ∈ before, isBlank c = true) ∧
    ∀ c ∈ behind, isBlank c = true

variable {padded cs : List Char}

theorem pads_self (cs : List Char) : Pads cs cs :=
  ⟨[], [], by rw [List.nil_append, List.append_nil], fun c hc => absurd hc List.not_mem_nil,
    fun c hc => absurd hc List.not_mem_nil⟩

theorem trim_eq (cs : List Char) : trim cs = (cs.dropWhile isBlank).rdropWhile isBlank := rfl

/-- What trimming takes away is blank. -/
theorem pads_trim (cs : List Char) : Pads cs (trim cs) := by
  refine ⟨cs.takeWhile isBlank, (cs.dropWhile isBlank).rtakeWhile isBlank, ?_, fun c => List.mem_takeWhile_imp,
    fun c => List.mem_rtakeWhile_imp⟩
  rw [trim_eq, List.rdropWhile_append_rtakeWhile, List.takeWhile_append_dropWhile]

/-- Blanks in front of a text that begins with none are dropped. -/
theorem dropWhile_isBlank {before : List Char} (hbefore : ∀ c ∈ before, isBlank c = true)
    (hfirst : ∀ c ∈ cs.head?, isBlank c = false) : (before ++ cs).dropWhile isBlank = cs := by
  rw [List.dropWhile_append_of_pos hbefore]
  cases cs with
  | nil => rfl
  | cons c cs => rw [List.dropWhile_cons, hfirst c rfl, if_neg Bool.false_ne_true]

/-- Blanks behind a text that ends with none are dropped. -/
theorem rdropWhile_isBlank {behind : List Char} (hbehind : ∀ c ∈ behind, isBlank c = true)
    (hlast : ∀ c ∈ cs.getLast?, isBlank c = false) : (cs ++ behind).rdropWhile isBlank = cs := by
  have hreversed : ∀ c ∈ behind.reverse, isBlank c = true := fun c hc => hbehind c (List.mem_reverse.1 hc)
  have hfirst : ∀ c ∈ cs.reverse.head?, isBlank c = false := by
    rwa [List.head?_reverse]
  rw [List.rdropWhile, List.reverse_append, dropWhile_isBlank hreversed hfirst, List.reverse_reverse]

/-- A trimmed text is found inside any blanks. -/
theorem trim_of_pads (h : Pads padded cs) (htrimmed : IsTrimmed cs) : trim padded = cs := by
  obtain ⟨before, behind, rfl, hbefore, hbehind⟩ := h
  rw [trim_eq]
  cases cs with
  | nil =>
    -- nothing but blanks
    have hall : (before ++ ([] ++ behind)).dropWhile isBlank = [] := by
      rw [List.nil_append, ← List.append_nil (before ++ behind)]
      refine dropWhile_isBlank (fun c hc => ?_) fun c hc => absurd hc (by simp)
      exact (List.mem_append.1 hc).elim (hbefore c) (hbehind c)
    rw [hall]
    rfl
  | cons c cs =>
    have hfirst : ∀ d ∈ ((c :: cs) ++ behind).head?, isBlank d = false := htrimmed.first
    rw [dropWhile_isBlank hbefore hfirst, rdropWhile_isBlank hbehind htrimmed.last]

theorem trim_of_isTrimmed (h : IsTrimmed cs) : trim cs = cs := trim_of_pads (pads_self cs) h

theorem pads_iff (htrimmed : IsTrimmed cs) : Pads padded cs ↔ trim padded = cs := by
  constructor
  · intro h
    exact trim_of_pads h htrimmed
  · rintro rfl
    exact pads_trim padded

/-- Behind a trimmed text, trimming takes away no more than it finds there. -/
theorem exists_trim_append {before : List Char} (hbefore : ∀ c ∈ before, isBlank c = true) (hne : cs ≠ [])
    (htrimmed : IsTrimmed cs) (more : List Char) : ∃ less, trim (before ++ (cs ++ more)) = cs ++ less := by
  have hfirst : ∀ c ∈ (cs ++ more).head?, isBlank c = false := by
    rw [List.head?_append_of_ne_nil cs hne]
    exact htrimmed.first
  rw [trim_eq, dropWhile_isBlank hbefore hfirst]
  -- from the end of what is behind, one character at a time
  induction more using List.reverseRecOn with
  | nil =>
    rw [List.append_nil, List.rdropWhile_eq_self_iff.2 fun hl => by
      rw [htrimmed.last _ (List.getLast?_eq_getLast_of_ne_nil hl)]
      exact Bool.false_ne_true]
    exact ⟨[], (List.append_nil cs).symm⟩
  | append_singleton more c ih =>
    rw [← List.append_assoc, List.rdropWhile_concat]
    split
    · apply ih
      rw [List.head?_append_of_ne_nil cs hne]
      exact htrimmed.first
    · exact ⟨more ++ [c], List.append_assoc ..⟩

/-! ## Letters and digits -/

/-- The visible characters of ASCII, digits and letters among them. -/
theorem isBlank_of_visible {c : Char} (hlow : 33 ≤ c.toNat) (hhigh : c.toNat ≤ 126) : isBlank c = false := by
  simp only [isBlank, inRanges, blankRanges, List.any_cons, List.any_nil, Bool.or_false, Bool.or_eq_false_iff,
    Bool.and_eq_false_iff, decide_eq_false_iff_not]
  omega

theorem isBlank_toLower (c : Char) : isBlank c.toLower = isBlank c := by
  have hmoved := toNat_toLower c
  by_cases hupper : c.isUpper = true
  · have hbounds := isUpper_iff.1 hupper
    rw [if_pos hupper] at hmoved
    have hlower : isBlank c.toLower = false := isBlank_of_visible (by omega) (by omega)
    rw [hlower, isBlank_of_visible (by omega) (by omega)]
  · rw [if_neg hupper, Char.toNat_inj] at hmoved
    rw [hmoved]

theorem isBlank_of_isDigit {c : Char} (h : c.isDigit = true) : isBlank c = false := by
  have hbounds := isDigit_iff.1 h
  exact isBlank_of_visible (by omega) (by omega)

/-- A text is trimmed in any case of its letters. -/
theorem isTrimmed_toLower_iff : IsTrimmed (cs.map Char.toLower) ↔ IsTrimmed cs := by
  have hends : ∀ o : Option Char, (∀ c ∈ o.map Char.toLower, isBlank c = false) ↔ ∀ c ∈ o, isBlank c = false := by
    intro o
    cases o with
    | none => simp
    | some c => simp [isBlank_toLower]
  constructor
  · rintro ⟨hfirst, hlast⟩
    rw [List.head?_map] at hfirst
    rw [List.getLast?_map] at hlast
    exact ⟨(hends _).1 hfirst, (hends _).1 hlast⟩
  · rintro ⟨hfirst, hlast⟩
    refine ⟨?_, ?_⟩
    · rw [List.head?_map]
      exact (hends _).2 hfirst
    · rw [List.getLast?_map]
      exact (hends _).2 hlast

end Rowgraph.Unicode
