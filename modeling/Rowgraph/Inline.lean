import Rowgraph.Parameter
import Rowgraph.Value.Literal

/-!
# Inline placeholders

A placeholder `{=name}` stands for the literal of the parameter of that name. Expansion goes once
through a text from left to right: a placeholder whose name is known is replaced, what replaces it is
not read again, and anything else is left as it is.
-/

set_option autoImplicit false

namespace Rowgraph.Inline

/-- May the character begin a placeholder's name? -/
def isNameStart (c : Char) : Bool := c.isAlpha || c == '_'

/-- May the character stand inside a placeholder's name? -/
def isNamePart (c : Char) : Bool := c.isAlphanum || c == '_'

/-- The name of a placeholder and the text after it, from behind its opening `{=`. -/
def nameOf? (cs : List Char) : Option (List Char × List Char) :=
  match cs with
  | [] => none
  | c :: rest =>
    if isNameStart c then
      match rest.dropWhile isNamePart with
      | '\x7d' :: after => some (c :: rest.takeWhile isNamePart, after)
      | _ => none
    else none

/-- The name of the placeholder that a text begins with, and the text after it. -/
def placeholder? : List Char → Option (List Char × List Char)
  | '\x7b' :: '=' :: rest => nameOf? rest
  | _ => none

theorem length_lt_of_nameOf? {cs name after : List Char} (h : nameOf? cs = some (name, after)) :
    after.length < cs.length := by
  unfold nameOf? at h
  split at h
  · cases h
  · next c rest =>
    split at h
    · split at h
      · next tail hd =>
        have hle := (List.dropWhile_sublist (l := rest) isNamePart).length_le
        rw [hd, List.length_cons] at hle
        obtain ⟨rfl, rfl⟩ := Prod.mk.inj (Option.some.inj h)
        rw [List.length_cons]
        omega
      · cases h
    · cases h

/-- A placeholder is not empty. -/
theorem length_lt_of_placeholder? {cs name after : List Char}
    (h : placeholder? cs = some (name, after)) : after.length < cs.length := by
  unfold placeholder? at h
  split at h
  · have := length_lt_of_nameOf? h
    simp only [List.length_cons]
    omega
  · cases h

/-- What a placeholder's name stands for; the placeholder itself where no parameter has the name. -/
def valueOf (ps : Parameters) (name : List Char) : List Char :=
  match ps.find? (String.ofList name) with
  | some p => p.value.literalChars
  | none => ['\x7b', '='] ++ name ++ ['\x7d']

/-- A text with its placeholders replaced. -/
def expandChars (ps : Parameters) : List Char → List Char
  | [] => []
  | c :: rest =>
    match _h : placeholder? (c :: rest) with
    | some (name, after) => valueOf ps name ++ expandChars ps after
    | none => c :: expandChars ps rest
termination_by cs => cs.length
decreasing_by
  · exact length_lt_of_placeholder? _h
  · simp

end Rowgraph.Inline

namespace Rowgraph.Parameters

/-- The text with the inline placeholders of these parameters replaced by literals. -/
def expand (ps : Parameters) (sql : String) : String :=
  String.ofList (Inline.expandChars ps sql.toList)

end Rowgraph.Parameters
