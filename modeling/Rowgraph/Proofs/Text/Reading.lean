import Rowgraph.Text.Doubled

/-!
# Reading text

How far a reader goes. A run of characters of one class ends in front of the first of another
(`takeWhile_run`), a text without a mark in front of the mark (`bne_of_not_mem`). Text in brackets or in quotes
is read up to the closing character that is not doubled (`Doubled.decode?`), so that what is written is read back
(`decode?_encode`). The one condition is that what follows does not begin with the closing character, which would
be read as the second half of a pair.
-/

set_option autoImplicit false

namespace Rowgraph

section Runs

variable {p : Char → Bool} {run rest : List Char}

/-- A run is read up to the first character of another class. -/
theorem takeWhile_run (hrun : ∀ c ∈ run, p c = true) (hrest : ∀ c ∈ rest.head?, p c = false) :
    (run ++ rest).takeWhile p = run := by
  rw [List.takeWhile_append_of_pos hrun]
  cases rest with
  | nil => simp
  | cons c rest => simp [hrest c rfl]

/-- What is behind a run is left. -/
theorem dropWhile_run (hrun : ∀ c ∈ run, p c = true) (hrest : ∀ c ∈ rest.head?, p c = false) :
    (run ++ rest).dropWhile p = rest := by
  rw [List.dropWhile_append_of_pos hrun]
  cases rest with
  | nil => rfl
  | cons c rest => simp [hrest c rfl]

variable {mark : Char}

/-- A text without a mark is a run of other characters. -/
theorem bne_of_not_mem (h : mark ∉ run) : ∀ c ∈ run, (c != mark) = true := by
  intro c hc
  rw [bne_iff_ne]
  rintro rfl
  exact h hc

/-- The mark ends the run. -/
theorem bne_head?_cons (mark : Char) (rest : List Char) : ∀ c ∈ (mark :: rest).head?, (c != mark) = false := by
  rintro c ⟨⟩
  exact bne_self_eq_false mark

end Runs

namespace Doubled

variable {close : Char} {rest text : List Char}

/-- The text up to the character that closes it, and what follows that. Two such characters in a row are one of
the text. Text that is never closed is none. -/
def decode? (close : Char) : List Char → Option (List Char × List Char)
  | [] => none
  | [c] => if c = close then some ([], []) else none
  | c :: d :: cs =>
    if c = close then
      if d = close then (decode? close cs).map fun (text, rest) => (close :: text, rest)
      else some ([], d :: cs)
    else (decode? close (d :: cs)).map fun (text, rest) => (c :: text, rest)

theorem encode_cons_close (close : Char) (text : List Char) :
    encode close (close :: text) = close :: close :: encode close text := by
  simp [encode]

theorem encode_cons_of_ne {c : Char} (h : c ≠ close) (text : List Char) :
    encode close (c :: text) = c :: encode close text := by
  simp [encode, h]

/-- Text without the closing character is written as it is. -/
theorem encode_eq_self (h : close ∉ text) : encode close text = text := by
  induction text with
  | nil => rfl
  | cons c text ih =>
    rw [List.mem_cons, not_or] at h
    rw [encode_cons_of_ne (Ne.symm h.1), ih h.2]

/-- The closing character ends a text unless it is doubled. -/
theorem decode?_close (h : rest.head? ≠ some close) : decode? close (close :: rest) = some ([], rest) := by
  cases rest with
  | nil => simp [decode?]
  | cons d rest =>
    have hd : d ≠ close := fun heq => h (congrArg some heq)
    rw [decode?, if_pos rfl, if_neg hd]

theorem decode?_pair (close : Char) (cs : List Char) :
    decode? close (close :: close :: cs) =
      (decode? close cs).map fun (text, rest) => (close :: text, rest) := by
  rw [decode?, if_pos rfl, if_pos rfl]

theorem decode?_cons_of_ne {c : Char} (h : c ≠ close) (cs : List Char) :
    decode? close (c :: cs) = (decode? close cs).map fun (text, rest) => (c :: text, rest) := by
  cases cs with
  | nil => simp [decode?, h]
  | cons d cs => rw [decode?, if_neg h]

/-- A written text is read back, with what follows it. -/
theorem decode?_encode (text : List Char) (h : rest.head? ≠ some close) :
    decode? close (encode close text ++ close :: rest) = some (text, rest) := by
  induction text with
  | nil => exact decode?_close h
  | cons c text ih =>
    by_cases hc : c = close
    · -- the character is written twice, so that the pair is read and not an end
      subst hc
      rw [encode_cons_close, List.cons_append, List.cons_append, decode?_pair, ih]
      rfl
    · rw [encode_cons_of_ne hc, List.cons_append, decode?_cons_of_ne hc, ih]
      rfl

end Doubled

end Rowgraph
