import ScriptLink.Url.File

/-!
# ScriptLink.Module.Fallback — where else a module may be

A module named by a file URL is also looked for in directories next to the one it was named in: for
each segment, the last component of the path moves below a directory of that name. A segment that is
a directory of the path already gives nothing, and neither does a specifier that is no file URL or
that names no file.
-/

namespace ScriptLink.Fallback

def occursIn (part : List Char) : List Char → Bool
  | [] => part.isEmpty
  | c :: rest => part.isPrefixOf (c :: rest) || occursIn part rest

/-- Whether a segment stands as a directory in the path of a URL. -/
def within (u : FileUrl) (segment : String) : Bool :=
  occursIn ('/' :: (segment.toList ++ ['/'])) u.path

/-- The URL with its last component below one more directory. -/
def moved (u : FileUrl) (segment : String) : FileUrl :=
  (u.pop.push segment.toList).push u.fileName

/-- The other specifiers of a module, one for each segment that applies. -/
def candidates (segments : List String) (specifier : String) : List String :=
  match FileUrl.parse? specifier with
  | none => []
  | some u =>
    if u.fileName.isEmpty then []
    else (((segments.filter fun s => !within u s).map fun s => (moved u s).text).filter
      (· != specifier))

end ScriptLink.Fallback
