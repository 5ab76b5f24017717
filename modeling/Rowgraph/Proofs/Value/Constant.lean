import Rowgraph.Proofs.Text.Reading
import Rowgraph.Value.Field
import Rowgraph.Value.Literal

/-!
# Constants

What the server reads where a literal is written (`Constant.read?`): NULL, a whole number with its sign, a text in
quotes that is national or plain, or bytes in hexadecimal digits. The literal of a value that is no float is read
as a constant that gives back the value itself in a field of its kind (`read?_literal`), whatever follows, as long
as that could not be a part of the literal.
-/

set_option autoImplicit false

namespace Rowgraph

/-- A constant of the server's language. -/
inductive Constant where
  | null
  | number (n : Int)
  /-- A text of national characters. -/
  | national (text : List Char)
  /-- A text of plain characters. A UUID is written as one. -/
  | plain (text : List Char)
  | binary (bytes : List UInt8)
  deriving DecidableEq

namespace Hex

/-- Is the character a digit, in either case? -/
def isDigit (c : Char) : Bool := (value? c).isSome

/-- The bytes that digits write, two for each. -/
def bytes? : List Char → Option (List UInt8)
  | [] => some []
  | [_] => none
  | high :: low :: digits =>
    match value? high, value? low, bytes? digits with
    | some h, some l, some bytes => some (UInt8.ofNat (16 * h.val + l.val) :: bytes)
    | _, _, _ => none

end Hex

namespace Constant

/-! ## Reading -/

/-- A text up to its closing quote. -/
def quoted? (constant : List Char → Constant) (cs : List Char) : Option (Constant × List Char) :=
  (Doubled.decode? '\'' cs).map fun (text, rest) => (constant text, rest)

/-- Bytes, from behind their `0x`. -/
def binary? (cs : List Char) : Option (Constant × List Char) :=
  (Hex.bytes? (cs.takeWhile Hex.isDigit)).map fun bytes => (.binary bytes, cs.dropWhile Hex.isDigit)

/-- A number without its sign. It has a digit at least. -/
def digits? (cs : List Char) : Option (Nat × List Char) :=
  match cs.takeWhile Char.isDigit with
  | [] => none
  | digits => some (Nat.ofDigitChars 10 digits 0, cs.dropWhile Char.isDigit)

/-- A word: NULL, or the mark in front of a national text. -/
def word? (cs : List Char) : Option (Constant × List Char) :=
  match cs.takeWhile Char.isAlphanum, cs.dropWhile Char.isAlphanum with
  | ['N', 'U', 'L', 'L'], rest => some (.null, rest)
  | ['N'], '\'' :: rest => quoted? .national rest
  | _, _ => none

/-- The constant that a text begins with, and what follows it. -/
def read? : List Char → Option (Constant × List Char)
  | [] => none
  | c :: cs =>
    if c = '\'' then quoted? .plain cs
    else if c = '-' then (digits? cs).map fun (n, rest) => (.number (-n), rest)
    else if c = '0' ∧ cs.head? = some 'x' then binary? cs.tail
    else if c.isDigit then (digits? (c :: cs)).map fun (n, rest) => (.number n, rest)
    else word? (c :: cs)

/-- The value that a constant gives a field of a kind. A truth value is false for zero only, and a number that is
too large for a field gives none. -/
def value? : FieldKind → Constant → Option Value
  | _, .null => some .null
  | .bool, .number n => some (.bool (n != 0))
  | .int64, .number n =>
    if Int64.minValue.toInt ≤ n ∧ n ≤ Int64.maxValue.toInt then some (.int (Int64.ofInt n)) else none
  | .text, .national text => some (.text (String.ofList text))
  | .bytes, .binary bytes => some (.bytes bytes)
  | .uuid, .plain text => (Uuid.parse? (String.ofList text)).map .uuid
  | _, _ => none

end Constant

/-! ## Digits -/

namespace Hex

theorem value?_lowerDigit : ∀ d : Fin 16, value? (lowerDigit d) = some d := by decide

theorem value?_upperDigit : ∀ d : Fin 16, value? (upperDigit d) = some d := by decide

theorem lowerDigit_ne_quote : ∀ d : Fin 16, lowerDigit d ≠ '\'' := by decide

/-- The two halves of a byte make it up. -/
theorem ofNat_halves (b : UInt8) : UInt8.ofNat (16 * (halves b).1.val + (halves b).2.val) = b := by
  have hb : b.toNat < 256 := b.toNat_lt
  have hhigh : (halves b).1.val = b.toNat / 16 := Nat.mod_eq_of_lt (by omega)
  have hlow : (halves b).2.val = b.toNat % 16 := Nat.mod_eq_of_lt (by omega)
  have hsum : 16 * (b.toNat / 16) + b.toNat % 16 = b.toNat := by omega
  rw [hhigh, hlow, hsum]
  exact UInt8.ofNat_toNat

/-- Bytes are read back from their digits. -/
theorem bytes?_upperBytes (bs : List UInt8) : bytes? (bs.flatMap upperByte) = some bs := by
  induction bs with
  | nil => rfl
  | cons b bs ih =>
    rw [List.flatMap_cons, upperByte, List.cons_append, List.cons_append, List.nil_append, bytes?,
      value?_upperDigit, value?_upperDigit, ih]
    simp only [ofNat_halves]

theorem isDigit_of_mem_upperBytes {bs : List UInt8} {c : Char} (h : c ∈ bs.flatMap upperByte) :
    isDigit c = true := by
  obtain ⟨b, -, hc⟩ := List.mem_flatMap.1 h
  simp only [upperByte, List.mem_cons, List.not_mem_nil, or_false] at hc
  rcases hc with rfl | rfl
  · rw [isDigit, value?_upperDigit, Option.isSome_some]
  · rw [isDigit, value?_upperDigit, Option.isSome_some]

/-- A digit in base sixteen is a letter or a decimal digit. -/
theorem isDigit_eq_false {c : Char} (h : c.isAlphanum = false) : isDigit c = false := by
  have hcode : c.toNat = c.val.toNat := rfl
  obtain ⟨halpha, hdecimal⟩ := Bool.or_eq_false_iff.1 h
  obtain ⟨hupper, hlower⟩ := Bool.or_eq_false_iff.1 halpha
  replace hupper := of_decide_eq_false hupper
  replace hlower := Bool.and_eq_false_iff.1 hlower
  replace hdecimal := Bool.and_eq_false_iff.1 hdecimal
  -- the ranges of the digits lie inside those of the letters and the decimal digits
  simp only [decide_eq_false_iff_not, UInt32.le_iff_toNat_le, ge_iff_le, Char.reduceVal, UInt32.reduceToNat]
    at hupper hlower hdecimal
  rw [isDigit, value?, if_neg, if_neg, if_neg]
  · rfl
  · omega
  · omega
  · omega

end Hex

/-! ## UUIDs -/

namespace Uuid

variable {cs : List Char}

theorem length_hyphenate (h : cs.length = 32) : (hyphenate cs).length = 36 := by
  simp [hyphenate, h]

/-- Without its hyphens the text is what it was. -/
theorem take_drop_hyphenate (h : cs.length = 32) :
    (hyphenate cs).take 8 ++ ((hyphenate cs).drop 9).take 4 ++ ((hyphenate cs).drop 14).take 4 ++
      ((hyphenate cs).drop 19).take 4 ++ (hyphenate cs).drop 24 = cs := by
  -- from the last group to the first, what was cut off is put back
  have hparts : cs.take 8 ++ ((cs.drop 8).take 4 ++ ((cs.drop 12).take 4 ++ ((cs.drop 16).take 4 ++
      cs.drop 20))) = cs := by
    have hlast : (cs.drop 16).take 4 ++ cs.drop 20 = cs.drop 16 := by
      simpa using List.take_append_drop 4 (cs.drop 16)
    have hmiddle : (cs.drop 12).take 4 ++ cs.drop 16 = cs.drop 12 := by
      simpa using List.take_append_drop 4 (cs.drop 12)
    have hfirst : (cs.drop 8).take 4 ++ cs.drop 12 = cs.drop 8 := by
      simpa using List.take_append_drop 4 (cs.drop 8)
    rw [hlast, hmiddle, hfirst, List.take_append_drop]
  simpa [hyphenate, h, List.take_append, List.drop_append, List.drop_take] using hparts

theorem mapM_value?_lowerDigit (digits : List (Fin 16)) :
    (digits.map Hex.lowerDigit).mapM Hex.value? = some digits := by
  induction digits with
  | nil => rfl
  | cons d digits ih =>
    rw [List.map_cons, List.mapM_cons, Hex.value?_lowerDigit, ih]
    rfl

/-- A UUID is read back from its hyphenated form. -/
theorem parse?_toChars (u : Uuid) : parse? (String.ofList u.toChars) = some u := by
  have hlength : (u.digits.map Hex.lowerDigit).length = 32 := by
    rw [List.length_map, u.length_digits]
  have hdigits : ofDigits? (u.digits.map Hex.lowerDigit) = some u := by
    rw [ofDigits?, mapM_value?_lowerDigit]
    exact dif_pos u.length_digits
  have hhyphenated : ofHyphenated? u.toChars = some u := by
    rw [ofHyphenated?, toChars, take_drop_hyphenate hlength]
    exact (if_pos rfl).trans hdigits
  have htext : u.toChars.length = 36 := length_hyphenate hlength
  rw [parse?, String.toList_ofList]
  simp [htext, hhyphenated]

/-- Only hyphens are put between the characters. -/
theorem mem_hyphenate {c : Char} (h : c ∈ hyphenate cs) : c = '-' ∨ c ∈ cs := by
  simp only [hyphenate, List.mem_append, List.mem_cons] at h
  rcases h with (((h | rfl | h) | rfl | h) | rfl | h) | rfl | h
  · exact Or.inr (List.mem_of_mem_take h)
  · exact Or.inl rfl
  · exact Or.inr (List.mem_of_mem_drop (List.mem_of_mem_take h))
  · exact Or.inl rfl
  · exact Or.inr (List.mem_of_mem_drop (List.mem_of_mem_take h))
  · exact Or.inl rfl
  · exact Or.inr (List.mem_of_mem_drop (List.mem_of_mem_take h))
  · exact Or.inl rfl
  · exact Or.inr (List.mem_of_mem_drop h)

/-- There is no quote in the hyphenated form, so that quotes around it leave it as it is. -/
theorem quote_not_mem_toChars (u : Uuid) : '\'' ∉ u.toChars := by
  intro hmem
  rcases mem_hyphenate hmem with hquote | hdigit
  · exact absurd hquote (by decide)
  · obtain ⟨d, -, hd⟩ := List.mem_map.1 hdigit
    exact Hex.lowerDigit_ne_quote d hd

end Uuid

/-! ## Constants are read -/

namespace Constant

variable {rest : List Char}

/-- A number without its sign is read back. -/
theorem digits?_toDigits (n : Nat) (h : ∀ c ∈ rest.head?, c.isDigit = false) :
    digits? (Nat.toDigits 10 n ++ rest) = some (n, rest) := by
  have hrun : ∀ c ∈ Nat.toDigits 10 n, c.isDigit = true := fun c hc =>
    Nat.isDigit_of_mem_toDigits (by omega) (by omega) hc
  rw [digits?, takeWhile_run hrun h, dropWhile_run hrun h]
  cases hdigits : Nat.toDigits 10 n with
  | nil => exact absurd hdigits Nat.toDigits_ne_nil
  | cons d digits =>
    dsimp only
    rw [← hdigits, Nat.ofDigitChars_ten_toDigits]

theorem quoted?_encode (constant : List Char → Constant) (text : List Char) (h : rest.head? ≠ some '\'') :
    quoted? constant (Doubled.encode '\'' text ++ '\'' :: rest) = some (constant text, rest) := by
  rw [quoted?, Doubled.decode?_encode text h]
  rfl

/-- The sign is written in front of a number below zero only. -/
theorem toList_toString (n : Int) : (toString n).toList =
    if 0 ≤ n then Nat.toDigits 10 n.toNat else '-' :: Nat.toDigits 10 (-n).toNat := by
  rw [Int.toString_eq_repr, Int.repr_eq_if]
  split
  · exact Nat.toList_repr
  · simp [Nat.toList_repr]

/-- Does nothing that follows belong to the literal in front of it? A quote would double the closing one, and a
letter or a digit would go on with a number or a word. -/
def Ends (rest : List Char) : Prop := ∀ c ∈ rest.head?, c ≠ '\'' ∧ c.isAlphanum = false

theorem Ends.isDigit (h : Ends rest) : ∀ c ∈ rest.head?, c.isDigit = false := by
  intro c hc
  exact (Bool.or_eq_false_iff.1 (h c hc).2).2

/-- Digits are read as a number, unless they begin as bytes do. -/
theorem read?_digits (n : Nat) (h : Ends rest) :
    read? (Nat.toDigits 10 n ++ rest) = some (.number n, rest) := by
  have hnumber := digits?_toDigits n h.isDigit
  have hdigits : ∀ c ∈ Nat.toDigits 10 n, c.isDigit = true := fun c hc =>
    Nat.isDigit_of_mem_toDigits (by omega) (by omega) hc
  cases hrun : Nat.toDigits 10 n with
  | nil => exact absurd hrun Nat.toDigits_ne_nil
  | cons d digits =>
    rw [hrun] at hnumber hdigits
    have hd : d.isDigit = true := hdigits d List.mem_cons_self
    -- a zero at the front is no beginning of bytes: behind it comes a digit or what follows the number
    have hx : (digits ++ rest).head? ≠ some 'x' := by
      cases digits with
      | nil =>
        intro hhead
        exact absurd (h 'x' hhead).2 (by decide)
      | cons e digits =>
        intro hhead
        cases hhead
        exact absurd (hdigits 'x' (by simp)) (by decide)
    have hquote : d ≠ '\'' := by
      rintro rfl
      cases hd
    have hsign : d ≠ '-' := by
      rintro rfl
      cases hd
    rw [List.cons_append, read?, if_neg hquote, if_neg hsign, if_neg fun hbinary => hx hbinary.2, if_pos hd,
      ← List.cons_append, hnumber]
    rfl

/-- A whole number is read with its sign. -/
theorem read?_number (n : Int) (h : Ends rest) :
    read? ((toString n).toList ++ rest) = some (.number n, rest) := by
  rw [toList_toString]
  split
  · next hn =>
    rw [read?_digits _ h, Int.toNat_of_nonneg hn]
  · next hn =>
    have habs : -((-n).toNat : Int) = n := by omega
    rw [List.cons_append, read?, if_neg (by decide), if_pos rfl, digits?_toDigits _ h.isDigit, Option.map_some]
    dsimp only
    rw [habs]

/-- The word for NULL is read, unless it goes on. -/
theorem read?_null (h : Ends rest) : read? ('N' :: 'U' :: 'L' :: 'L' :: rest) = some (.null, rest) := by
  have hrun : ∀ c ∈ ['N', 'U', 'L', 'L'], c.isAlphanum = true := List.all_eq_true.mp (by decide)
  have hstop : ∀ c ∈ rest.head?, c.isAlphanum = false := fun c hc => (h c hc).2
  have htake := takeWhile_run hrun hstop
  have hdrop := dropWhile_run hrun hstop
  simp only [List.cons_append, List.nil_append] at htake hdrop
  rw [read?, if_neg (by decide), if_neg (by decide), if_neg (not_and_of_not_left _ (by decide)),
    if_neg (by decide), word?, htake, hdrop]
  rfl

theorem read?_plain (text : List Char) (h : Ends rest) :
    read? ('\'' :: (Doubled.encode '\'' text ++ '\'' :: rest)) = some (.plain text, rest) := by
  rw [read?, if_pos rfl]
  exact quoted?_encode .plain text fun hrest => (h '\'' hrest).1 rfl

/-- A text behind its mark is national. -/
theorem read?_national (text : List Char) (h : Ends rest) :
    read? ('N' :: '\'' :: (Doubled.encode '\'' text ++ '\'' :: rest)) = some (.national text, rest) := by
  have hquoted := quoted?_encode .national text fun hrest => (h '\'' hrest).1 rfl
  rw [read?, if_neg (by decide), if_neg (by decide), if_neg (not_and_of_not_left _ (by decide)),
    if_neg (by decide), ← hquoted]
  rfl

/-- Bytes are read from their digits. -/
theorem read?_binary (bs : List UInt8) (h : Ends rest) :
    read? ('0' :: 'x' :: (bs.flatMap Hex.upperByte ++ rest)) = some (.binary bs, rest) := by
  have hrun : ∀ c ∈ bs.flatMap Hex.upperByte, Hex.isDigit c = true := fun _ => Hex.isDigit_of_mem_upperBytes
  have hstop : ∀ c ∈ rest.head?, Hex.isDigit c = false := fun c hc => Hex.isDigit_eq_false (h c hc).2
  rw [read?, if_neg (by decide), if_neg (by decide), if_pos ⟨rfl, rfl⟩, List.tail_cons, binary?,
    takeWhile_run hrun hstop, dropWhile_run hrun hstop, Hex.bytes?_upperBytes]
  rfl

/-! ## Values are read back -/

/-- A whole number of sixty-four bits fits its field. -/
theorem value?_number (n : Int64) : value? .int64 (.number n.toInt) = some (.int n) := by
  have hle : n.toInt ≤ Int64.maxValue.toInt := n.toInt_le
  have hge : Int64.minValue.toInt ≤ n.toInt := n.minValue_le_toInt
  rw [value?, if_pos ⟨hge, hle⟩, Int64.ofInt_toInt]

end Constant

/-- Is this the kind of a field that holds just such values? NULL is held by every field that may be empty. -/
def Value.fits : Value → FieldKind → Bool
  | .null, _ => true
  | .bool _, kind => kind == .bool
  | .int _, kind => kind == .int64
  | .float _, kind => kind == .float
  | .text _, kind => kind == .text
  | .bytes _, kind => kind == .bytes
  | .uuid _, kind => kind == .uuid

/-- The literal of a value that is no float is read as a constant, up to its end and no further, and the constant
gives the value back to a field of its kind. -/
theorem read?_literal (v : Value) (hfloat : ∀ x, v ≠ .float x) {rest : List Char} (h : Constant.Ends rest) :
    ∃ constant, Constant.read? (v.literal.toList ++ rest) = some (constant, rest) ∧
      ∀ kind, v.fits kind = true → constant.value? kind = some v := by
  rw [Value.literal, String.toList_ofList]
  cases v with
  | null => exact ⟨.null, Constant.read?_null h, fun kind _ => by cases kind <;> rfl⟩
  | bool b =>
    refine ⟨.number (if b then 1 else 0), ?_, fun kind hkind => ?_⟩
    · cases b with
      | true => exact Constant.read?_digits 1 h
      | false => exact Constant.read?_digits 0 h
    · cases eq_of_beq hkind
      cases b <;> rfl
  | int n =>
    refine ⟨.number n.toInt, Constant.read?_number n.toInt h, fun kind hkind => ?_⟩
    cases eq_of_beq hkind
    exact Constant.value?_number n
  | float x => exact absurd rfl (hfloat x)
  | text s =>
    refine ⟨.national s.toList, ?_, fun kind hkind => ?_⟩
    · have hread := Constant.read?_national s.toList h
      simpa [Value.literalChars] using hread
    · cases eq_of_beq hkind
      simp [Constant.value?]
  | bytes bs =>
    refine ⟨.binary bs, Constant.read?_binary bs h, fun kind hkind => ?_⟩
    cases eq_of_beq hkind
    rfl
  | uuid u =>
    refine ⟨.plain u.toChars, ?_, fun kind hkind => ?_⟩
    · have hread := Constant.read?_plain u.toChars h
      rw [Doubled.encode_eq_self u.quote_not_mem_toChars] at hread
      simpa [Value.literalChars] using hread
    · cases eq_of_beq hkind
      rw [Constant.value?, u.parse?_toChars]
      rfl

/-- A text of quotes, with a comma and another constant behind it. -/
theorem read?_literal_quotes :
    (∀ x, Value.text "'it''s'" ≠ .float x) ∧ Constant.Ends ", 1".toList ∧
      ∃ constant, Constant.read? ((Value.text "'it''s'").literal.toList ++ ", 1".toList) =
          some (constant, ", 1".toList) ∧
        ∀ kind, (Value.text "'it''s'").fits kind = true → constant.value? kind = some (.text "'it''s'") := by
  have hfloat : ∀ x, Value.text "'it''s'" ≠ .float x := fun x => by simp
  have hends : Constant.Ends ", 1".toList := by
    intro c hc
    cases hc
    exact ⟨by decide, by decide⟩
  exact ⟨hfloat, hends, read?_literal _ hfloat hends⟩

end Rowgraph
