/-!
# TOML values

The tree that a TOML text describes. A table remembers how it came to be, since that decides what
may still be added to it: a table with a header is defined by it once and for all, a table that a
longer header or a dotted key implies may grow, and an inline table is complete. A word may have the
form of a number and no value; that is an error only for those who ask for its value.
-/

set_option autoImplicit false

namespace Rowgraph

namespace Toml

/-- How a table came to be. -/
inductive Origin where
  /-- By a header of its own. -/
  | header
  /-- By a header of a table inside it. -/
  | implied
  /-- By a dotted key. -/
  | dotted
  /-- Written between braces. -/
  | inline
  deriving DecidableEq

end Toml

/-- A TOML value. Floats and dates keep their characters. -/
inductive Toml where
  | text (s : String)
  | integer (n : Int)
  | float (lexeme : List Char)
  /-- A word in the form of a number that has no value. -/
  | unreadable (lexeme : List Char)
  | bool (b : Bool)
  | moment (lexeme : List Char)
  | array (items : List Toml)
  | table (origin : Toml.Origin) (fields : List (String × Toml))
  /-- Tables with headers in double brackets, the newest last. -/
  | tables (elements : List (List (String × Toml)))

namespace Toml

mutual

/-- Has every word in the value a value of its own? -/
def isReadable : Toml → Bool
  | .array items => areReadable items
  | .table _ fields => fieldsReadable fields
  | .tables elements => elementsReadable elements
  | .unreadable _ => false
  | _ => true

/-- Is every item readable? -/
def areReadable : List Toml → Bool
  | [] => true
  | item :: rest => item.isReadable && areReadable rest

/-- Is the value of every field readable? -/
def fieldsReadable : List (String × Toml) → Bool
  | [] => true
  | (_, value) :: rest => value.isReadable && fieldsReadable rest

/-- Is every table readable? -/
def elementsReadable : List (List (String × Toml)) → Bool
  | [] => true
  | fields :: rest => fieldsReadable fields && elementsReadable rest

end

/-- The fields of a table. -/
abbrev Fields := List (String × Toml)

/-- The fields with one of them set. -/
def Fields.set (fields : Fields) (key : String) (value : Toml) : Fields :=
  if (fields.lookup key).isSome then fields.map fun f => if f.1 == key then (key, value) else f
  else fields ++ [(key, value)]

/-- A change of a table, which may be refused. -/
abbrev Change := Origin → Fields → Option (Origin × Fields)

/-- The last element of a list changed. -/
def changeLast {α : Type} (f : α → Option α) : List α → Option (List α)
  | [] => none
  | [a] => (f a).map fun b => [b]
  | a :: b :: rest => (changeLast f (b :: rest)).map (a :: ·)

/-- Carries out a change on the table at the end of a path, making the tables on the way. A header's
path goes through the last table of an array; a dotted key does not go through tables that have
headers of their own. -/
def changeAt (byKey : Bool) (change : Change) : List String → Change
  | [], origin, fields => change origin fields
  | key :: path, origin, fields =>
    match fields.lookup key with
    | none =>
      (changeAt byKey change path (if byKey then .dotted else .implied) []).map fun (o, fs) =>
        (origin, Fields.set fields key (.table o fs))
    | some (.table o fs) =>
      if o = .inline ∨ byKey ∧ o = .header then none
      else
        (changeAt byKey change path o fs).map fun (o, fs) =>
          (origin, Fields.set fields key (.table o fs))
    | some (.tables elements) =>
      (changeLast (fun fs => (changeAt byKey change path .header fs).map (·.2)) elements).map
        fun elements => (origin, Fields.set fields key (.tables elements))
    | some _ => none

/-- Adds a field that is not there yet. -/
def addField (key : String) (value : Toml) : Change := fun origin fields =>
  if (fields.lookup key).isSome then none else some (origin, fields ++ [(key, value)])

/-- Adds a field to a table that dotted keys made. -/
def addDotted (key : String) (value : Toml) : Change := fun origin fields =>
  if origin = .dotted then addField key value origin fields else none

/-- Adds a field under a dotted key. -/
def addAt (path : List String) (key : String) (value : Toml) : Change :=
  match path with
  | [] => addField key value
  | _ => changeAt true (addDotted key value) path

/-- Opens a table by its header, which is its only one. -/
def openTable (key : String) : Change := fun origin fields =>
  match fields.lookup key with
  | none => some (origin, fields ++ [(key, .table .header [])])
  | some (.table .implied fs) => some (origin, Fields.set fields key (.table .header fs))
  | some _ => none

/-- Opens one more table of an array. -/
def openElement (key : String) : Change := fun origin fields =>
  match fields.lookup key with
  | none => some (origin, fields ++ [(key, .tables [[]])])
  | some (.tables elements) => some (origin, Fields.set fields key (.tables (elements ++ [[]])))
  | some _ => none

end Toml

end Rowgraph
