/-!
# ScriptLink.Target.Path — paths as text

A path is absolute when it begins with a slash. Paths are joined as text: an absolute path stands for
itself, any other follows its base with one slash between them. The extension of a file name is what
follows its last point, unless nothing stands before that.
-/

namespace ScriptLink.Path

/-- The path begins at the root. -/
def isAbsolute (p : String) : Bool := p.toList.head? == some '/'

/-- The path `p` seen from `base`. -/
def join (base p : String) : String :=
  if isAbsolute p then p
  else if base = "" ∨ base.toList.getLast? = some '/' then base ++ p
  else base ++ "/" ++ p

/-- The pieces of a path between slashes. -/
def pieces (p : String) : List String := (p.toList.splitOn '/').map String.ofList

/-- The most bytes of a path. -/
@[irreducible] def maxSize : Nat := 4095

/-- The most bytes of a name in a path. -/
@[irreducible] def maxNameSize : Nat := 255

/-- The extension of a file name. -/
def extension? (name : String) : Option String :=
  match name.toList.reverse.span (· != '.') with
  | (_, []) => none
  | (_, ['.']) => none
  | (ending, _) => some (String.ofList ending.reverse)

end ScriptLink.Path
