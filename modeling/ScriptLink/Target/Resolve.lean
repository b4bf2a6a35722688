import ScriptLink.Target.FileTree
import ScriptLink.Url.File

/-!
# ScriptLink.Target.Resolve — from a target as given to a specifier

* A target that looks like a URL is its own specifier.
* Any other is the path of a file: an absolute one is taken as it is, a relative one is searched in the
  base directory and then in the roots, in order. Its specifier is its file URL.
-/

namespace ScriptLink

/-- Where relative targets are searched. -/
structure TargetSearch where
  base : String
  roots : List String
  deriving DecidableEq, Repr, Inhabited

/-- Why a target has no specifier. -/
inductive TargetFault where
  | empty
  | notFound (target : String) (tried : List String)
  | notAFileUrl (path : String)
  deriving DecidableEq, Repr, Inhabited

def TargetFault.message : TargetFault → String
  | .empty => "target specifier is empty"
  | .notFound target tried =>
    let places := ", ".intercalate tried
    s!"target script not found for `{target}`; looked in: {places}"
  | .notAFileUrl path => s!"failed to convert path to file url: {path}"

/-- What a target begins with that is a specifier already. -/
def urlBeginnings : List String := ["file://", "http://", "https://", "jsr:", "npm:", "builtin:"]

/-- The target is a specifier already. -/
def isUrlLike (target : String) : Bool :=
  urlBeginnings.any fun b => b.toList.isPrefixOf target.toList

namespace TargetSearch

/-- Where a relative path is looked for, in order. -/
def candidates (s : TargetSearch) (path : String) : List String :=
  (s.base :: s.roots).map fun root => Path.join root path

/-- The path of the file that a target is. -/
def locate (s : TargetSearch) (fs : FileSystem) (target : String) : Except TargetFault String :=
  if Path.isAbsolute target then .ok target
  else
    match (s.candidates target).find? fs.isFile with
    | some path => .ok path
    | none => .error (.notFound target (s.candidates target))

/-- The specifier of a target. -/
def resolve (s : TargetSearch) (fs : FileSystem) (raw : String) : Except TargetFault String :=
  match Text.trimmed? raw with
  | none => .error .empty
  | some target =>
    if isUrlLike target then .ok target
    else
      match s.locate fs target with
      | .error e => .error e
      | .ok path =>
        match FileUrl.ofPath? path with
        | some url => .ok url.text
        | none => .error (.notAFileUrl path)

end TargetSearch

end ScriptLink
