import ScriptLink.Target.Path

/-!
# ScriptLink.Target.FileTree — which files there are

A tree lists its files and directories by their components from the root; every directory above one
that is listed is there too.

* `FileTree.walk` follows the pieces of a path: an empty piece and a dot stay in a directory, two dots
  go to the one above. Nothing lies below a file, so a path with a slash after a file leads nowhere. A
  path that leads nowhere is either plainly `missing` or `barred`.
* `FileTree.add` enters a file under a path, and the directories on the way to it.
* `FileTree.read?` is the content of the file at a path, `FileTree.isFile` whether there is one.
* A `FileSystem` only tells which paths are files, and from where paths are seen; a tree is one (`FileTree.system`).
-/

namespace ScriptLink

/-- Files and directories. -/
structure FileTree where
  files : List (List String × String)
  directories : List (List String)
  /-- The directory from which paths that are not absolute begin. -/
  working : List String
  deriving DecidableEq, Repr, Inhabited

namespace FileTree

/-- The path of components from the root. -/
def pathOf (components : List String) : String := "/" ++ "/".intercalate components

/-- The path of the working directory. -/
def workingPath (t : FileTree) : String := pathOf t.working

/-- What a path leads to. -/
inductive Node where
  | directory (components : List String)
  | file (components : List String) (content : String)
  deriving DecidableEq, Repr, Inhabited

/-- Why a path leads nowhere. -/
inductive Nowhere where
  | missing
  /-- The path goes on behind a file, or it or a name in it is too long. -/
  | barred
  deriving DecidableEq, Repr, Inhabited

/-- The directory is listed, or lies above something that is. -/
def hasDirectory (t : FileTree) (components : List String) : Bool :=
  t.directories.any components.isPrefixOf || components.isPrefixOf t.working ||
    t.files.any fun (place, _) => components.isPrefixOf place.dropLast

/-- What lies at a place. -/
def node? (t : FileTree) (components : List String) : Option Node :=
  match t.files.lookup components with
  | some content => some (.file components content)
  | none => if t.hasDirectory components then some (.directory components) else none

/-- Where a path begins. -/
def origin (t : FileTree) (path : String) : List String :=
  if Path.isAbsolute path then [] else t.working

/-- Where one piece of a path leads from a directory. -/
def enter (here : List String) (piece : String) : List String :=
  if piece = "" ∨ piece = "." then here
  else if piece = ".." then here.dropLast
  else here ++ [piece]

/-- Where one piece of a path leads. -/
def step (t : FileTree) (n : Node) (piece : String) : Except Nowhere Node :=
  match n with
  | .file .. => .error .barred
  | .directory here =>
    if ["", ".", ".."].contains piece then .ok (.directory (enter here piece))
    else if Path.maxNameSize < piece.utf8ByteSize then .error .barred
    else (t.node? (enter here piece)).elim (.error .missing) .ok

/-- Where a path leads. -/
def walk (t : FileTree) (path : String) : Except Nowhere Node :=
  if path = "" then .error .missing
  else if Path.maxSize < path.utf8ByteSize then .error .barred
  else (Path.pieces path).foldlM t.step (.directory (t.origin path))

/-- The content of the file at a path. -/
def read? (t : FileTree) (path : String) : Option String :=
  match t.walk path with
  | .ok (.file _ content) => some content
  | _ => none

/-- There is a file at the path. -/
def isFile (t : FileTree) (path : String) : Bool := (t.read? path).isSome

/-! ## Entering files -/

/-- The places that the pieces of a path lead through. -/
def route (here : List String) : List String → List (List String)
  | [] => []
  | piece :: rest => here :: route (enter here piece) rest

/-- The tree with one more file. -/
def add (path content : String) (t : FileTree) : FileTree :=
  let pieces := Path.pieces path
  { t with
    files := (pieces.foldl enter (t.origin path), content) :: t.files
    directories := route (t.origin path) pieces ++ t.directories }

/-- The tree with one more directory. -/
def addDirectory (path : String) (t : FileTree) : FileTree :=
  let pieces := Path.pieces path
  { t with directories :=
      pieces.foldl enter (t.origin path) :: route (t.origin path) pieces ++ t.directories }

theorem isAbsolute_pathOf (components : List String) : Path.isAbsolute (pathOf components) = true := by
  unfold Path.isAbsolute pathOf
  rw [String.toList_append]
  rfl

end FileTree

/-! ## Looking for files -/

/-- What is asked of a file system where files are looked for. -/
structure FileSystem where
  /-- The directory from which paths that are not absolute begin. -/
  working : String
  absolute : Path.isAbsolute working = true
  isFile : String → Bool

/-- The tree as a file system. -/
def FileTree.system (t : FileTree) : FileSystem := ⟨t.workingPath, isAbsolute_pathOf t.working, t.isFile⟩

instance : Coe FileTree FileSystem := ⟨FileTree.system⟩

end ScriptLink
