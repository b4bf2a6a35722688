import ScriptLink.Config.Layer
import ScriptLink.Config.Toml.Document
import ScriptLink.Target.FileTree

/-!
# ScriptLink.Config.SettingsFile — settings from files

A file with settings is TOML, and one whose extension is that of another format is refused. Its key
`extends` may name one more file, seen from the directory of the file itself, whose settings lie below.

* `SettingsFile.chain?` gives the layers of a file and of all that it extends. It refuses a chain that
  comes back to a file or leads to something that is no file of settings.
* `SettingsFile.first?` is the chain of the first of several files that has one. Files that are plainly
  missing do not matter; where there is no chain, any other file is a failure.
* `SettingsFile.candidates` are the files that are tried where none is asked for.
-/

namespace ScriptLink

/-- A file with settings. -/
structure SettingsFile where
  /-- Its components from the root. -/
  place : List String
  content : Layer
  deriving Inhabited

namespace SettingsFile

/-! ## One file -/

/-- The extensions of other formats. -/
def foreignExtensions : List String := ["json", "json5", "yaml", "yml"]

/-- Whether a file name has the extension of another format, in capital or small letters. -/
def isForeign (name : String) : Bool :=
  (Path.extension? name).any fun e => foreignExtensions.contains (Choice.lowered e)

/-- The settings of the file at a path, unless it is none, of another format or malformed. -/
def read? (tree : FileTree) (path : String) : Option SettingsFile :=
  match tree.walk path with
  | .ok (.file place text) =>
    if place.getLast?.any isForeign then none else (Config.Toml.read? text).map (⟨place, ·⟩)
  | _ => none

/-- The key that names the file below. -/
def baseKey : String := "extends"

/-- The path of the file that a file extends, if it extends one. Nothing at all if what it says of this is
not a text. -/
def base? (f : SettingsFile) : Option (Option String) :=
  match f.content.get? baseKey with
  | none => some none
  | some (.str path) => some (some (Path.join (FileTree.pathOf f.place.dropLast) path))
  | some _ => none

/-! ## Chains -/

/-- The layers of a file and of all that it extends, the lowest first, unless one of them was `seen`
before; the fuel is a bound on their number. -/
def chainFor? (tree : FileTree) : Nat → List (List String) → String → Option (List Layer)
  | 0, _, _ => none
  | fuel + 1, seen, path => do
    let f ← read? tree path
    if seen.contains f.place then none
    else
      match ← f.base? with
      | none => return [f.content]
      | some base => return (← chainFor? tree fuel (f.place :: seen) base) ++ [f.content]

/-- The layers of a file and of all that it extends, the lowest first. A chain is no longer than there are
files. -/
def chain? (tree : FileTree) (path : String) : Option (List Layer) :=
  chainFor? tree (tree.files.length + 1) [] path

/-! ## Several files -/

/-- The path leads nowhere, and plainly so. -/
def isMissing (tree : FileTree) (path : String) : Bool :=
  match tree.walk path with
  | .error .missing => true
  | _ => false

/-- The layers of the first file that has a chain; none where all files are missing. -/
def first? (tree : FileTree) (paths : List String) : Option (List Layer) :=
  match paths.findSome? (chain? tree) with
  | some layers => some layers
  | none => if paths.all (isMissing tree) then some [] else none

/-- The file of this program among those of others. -/
def ownName : String := "duplex/config.toml"

/-- The file of this program where it stands by itself. -/
def hiddenName : String := ".duplex.toml"

/-- The files that are tried in a directory of configurations. -/
def within (directory : String) : List String :=
  [Path.join directory ownName, Path.join directory hiddenName]

/-- The files that are tried in the environment, in order: the one that a variable names, those in the
directories of configurations, those of the user, and the one in the working directory. -/
def candidates (environment : List (String × String)) : List String :=
  let named (name : String) : List String :=
    ((environment.lookup name).filter (· ≠ "")).toList
  let shared := (named "XDG_CONFIG_DIRS").flatMap fun s => (Text.split ':' s).filter (· ≠ "")
  named "DUPLEX_CONFIG_PATH" ++
    (named "XDG_CONFIG_HOME" ++ if shared.isEmpty then ["/etc/xdg"] else shared).flatMap within ++
    (named "HOME").flatMap (fun home =>
      within (Path.join home ".config") ++ [Path.join home hiddenName]) ++
    [hiddenName]

end SettingsFile

end ScriptLink
