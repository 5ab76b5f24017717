import Rowgraph.Settings.Basic
import Rowgraph.Settings.FileTree

/-!
# Finding settings

Where the settings of a program are looked for: at the path an environment variable names, which has
to be there; then in the working directory; then in the user's configuration directory. Without any
of them the defaults hold.
-/

set_option autoImplicit false

namespace Rowgraph.Settings

/-- The variable that names the settings file. -/
def pathVariable : String := "QUARRY_CONFIG"

/-- The settings file in the working directory. -/
def localPath : String := "quarry.toml"

/-- The settings file below a configuration directory. -/
def userPath (directory : String) : String :=
  FileTree.below (FileTree.below directory "quarry") "config.toml"

/-- The user's configuration directory: the one that is named, if absolute, or the usual one at
home. -/
def configDirectory? (env : Environment) : Option String :=
  match (env "XDG_CONFIG_HOME").filter FileTree.isAbsolute with
  | some directory => some directory
  | none =>
    ((env "HOME").filter fun home => !home.isEmpty).map fun home => FileTree.below home ".config"

/-- Reads the settings file at a path. -/
def ofFile (tree : FileTree) (path : String) : Except SettingsError Settings :=
  match tree.find path with
  | .nothing => .error (.fileNotFound path)
  | .directory => .error (.unreadable path)
  | .file text => ofText text

/-- The path of the settings file, if there is one. -/
def path? (env : Environment) (tree : FileTree) : Option String :=
  match env pathVariable with
  | some path => some path
  | none =>
    if tree.isFound localPath then some localPath
    else ((configDirectory? env).map userPath).filter tree.isFound

/-- Finds and reads the settings. -/
def load (env : Environment) (tree : FileTree) : Except SettingsError Settings :=
  match path? env tree with
  | some path => ofFile tree path
  | none => .ok {}

end Rowgraph.Settings
