/-!
# File trees

The files that a program can see, by the names on the way from the root. A directory is there if a
file lies below it or if it is the one the program works in, or lies above that.
-/

set_option autoImplicit false

namespace Rowgraph

/-- The names on the way from the root to a file or a directory. -/
abbrev Trail := List String

/-- Files with their texts. -/
structure FileTree where
  /-- The directory that relative paths begin at. -/
  workingDirectory : Trail
  files : List (Trail × String)
  deriving DecidableEq

/-- What is found at a path. -/
inductive FileTree.Found where
  | nothing
  | directory
  | file (text : String)
  deriving DecidableEq

namespace FileTree

/-- Is there a directory? -/
def isDirectory (t : FileTree) (trail : Trail) : Bool :=
  trail.isPrefixOf t.workingDirectory ||
    t.files.any fun f => trail.isPrefixOf f.1 && trail.length < f.1.length

/-- The trail of a path's names, from a directory on. Two dots lead one directory up, and only out of
a directory that is there. -/
def walk (t : FileTree) : Trail → List String → Option Trail
  | trail, [] => some trail
  | trail, name :: names =>
    if !t.isDirectory trail then none
    else if name = "" ∨ name = "." then walk t trail names
    else if name = ".." then walk t trail.dropLast names
    else walk t (trail ++ [name]) names

/-- Is the path absolute? -/
def isAbsolute (path : String) : Bool := path.toList.head? == some '/'

/-- The trail of a path. The empty path has none. -/
def trail? (t : FileTree) (path : String) : Option Trail :=
  if path.isEmpty then none
  else t.walk (if isAbsolute path then [] else t.workingDirectory) (path.splitOn "/")

/-- What is found at a path. -/
def find (t : FileTree) (path : String) : Found :=
  match t.trail? path with
  | none => .nothing
  | some trail =>
    if t.isDirectory trail then .directory
    else
      match t.files.lookup trail with
      | some text => .file text
      | none => .nothing

/-- Is there anything at a path? -/
def isFound (t : FileTree) (path : String) : Bool := t.find path != .nothing

/-- A path below a directory. -/
def below (directory name : String) : String := directory ++ "/" ++ name

end FileTree

end Rowgraph
