import Rowgraph.Error
import Rowgraph.Unicode.Alphanumeric

/-!
# Environment references

A text may refer to variables of the environment, as `${name}` or as `$name`. A value takes the place
of its reference as it is and is not read again; a dollar sign that begins no reference stays.
-/

set_option autoImplicit false

namespace Rowgraph

/-- The values of the variables that are set. -/
abbrev Environment := String → Option String

namespace Environment

/-- The environment of a list of variables, held as entries `name=value`. A name with an equals sign
in it is looked for in the entries too, and finds what stands behind it. -/
def ofList (entries : List (String × String)) : Environment := fun name =>
  entries.findSome? fun (n, value) =>
    let entry := n.toList ++ '=' :: value.toList
    let start := name.toList ++ ['=']
    if start.isPrefixOf entry then some (String.ofList (entry.drop start.length)) else none

/-- May the character stand in a name without braces? -/
def isNamePart (c : Char) : Bool := Unicode.isAlphanumeric c || c == '_'

/-- The name behind a dollar sign, and the text behind the reference. Braces that are never closed
reach to the end. -/
def cutName : List Char → List Char × List Char
  | '\x7b' :: rest =>
    (rest.takeWhile fun c => c != '\x7d', (rest.dropWhile fun c => c != '\x7d').drop 1)
  | rest => (rest.takeWhile isNamePart, rest.dropWhile isNamePart)

theorem cutName_length_le (cs : List Char) : (cutName cs).2.length ≤ cs.length := by
  unfold cutName
  split
  · next rest =>
    have h := (List.dropWhile_sublist (l := rest) (fun c => c != '\x7d')).length_le
    simp only [List.length_drop, List.length_cons]
    omega
  · exact (List.dropWhile_sublist _).length_le

/-- What a name behind a dollar sign stands for. -/
def valueOf (env : Environment) (name : List Char) : Except SettingsError (List Char) :=
  if name.isEmpty then .ok ['$']
  else
    match env (String.ofList name) with
    | some value => .ok value.toList
    | none => .error (.missingVariable (String.ofList name))

/-- A text with its references replaced. -/
def expandChars (env : Environment) : List Char → Except SettingsError (List Char)
  | [] => .ok []
  | c :: rest =>
    if c = '$' then do
      let value ← valueOf env (cutName rest).1
      return value ++ (← expandChars env (cutName rest).2)
    else (expandChars env rest).map (c :: ·)
termination_by cs => cs.length
decreasing_by
  · have := cutName_length_le rest
    simp only [List.length_cons]
    omega
  · simp

/-- A text with its references replaced. The first reference to a variable that is not set is an
error. -/
def expand (env : Environment) (text : String) : Except SettingsError String :=
  (expandChars env text.toList).map String.ofList

end Environment

end Rowgraph
