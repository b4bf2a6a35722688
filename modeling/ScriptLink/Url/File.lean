import ScriptLink.Text.Blank
import ScriptLink.Url.Host

/-!
# ScriptLink.Url.File — file URLs

* `FileUrl.parse?` reads a text as a URL of the scheme `file` by the rules for URLs on the web:
  white space around it is dropped, tabs and line ends are ignored, a backslash is a slash, dot
  segments are resolved, a drive letter is never climbed over, and one that comes first is written
  with a colon.
* `FileUrl.text` writes it.
* `FileUrl.pop` and `FileUrl.push` take components from the end of the path and put them there.
* `FileUrl.ofPath?` is the URL of an absolute path of the file system.
-/

namespace ScriptLink

/-- A URL of the scheme `file`, each part in its written form. -/
structure FileUrl where
  /-- The host; none for the machine itself. -/
  host : List Char
  path : List Char
  query : Option (List Char)
  fragment : Option (List Char)
  deriving DecidableEq, Repr, Inhabited

namespace FileUrl

open Url

/-! ## Paths -/

/-- A letter and a colon. -/
def isDrive : List Char → Bool
  | [c, ':'] => c.isAlpha
  | _ => false

/-- A letter and a colon or a bar, which can stand where a host is expected. -/
def isDriveSpec : List Char → Bool
  | [c, d] => c.isAlpha && (d == ':' || d == '|')
  | _ => false

/-- The text up to its last slash, with it. -/
def throughLastSlash (cs : List Char) : List Char :=
  (cs.reverse.dropWhile (· != '/')).reverse

/-- The text after its last slash. -/
def afterLastSlash (cs : List Char) : List Char :=
  (cs.reverse.takeWhile (· != '/')).reverse

/-- A single-dot segment, with the dot encoded or not. -/
def isSingleDot (cs : List Char) : Bool :=
  ["." , "%2e"].contains (String.ofList (cs.map Char.toLower))

/-- A double-dot segment, with dots encoded or not. -/
def isDoubleDot (cs : List Char) : Bool :=
  ["..", ".%2e", "%2e.", "%2e%2e"].contains (String.ofList (cs.map Char.toLower))

/-- The path with its last component taken away, unless that is a drive letter. -/
def shorten (path : List Char) : List Char :=
  if isDrive (afterLastSlash path) then path else throughLastSlash path

/-- The path before a double-dot segment with the slash before that segment taken away, unless it is
the root's or follows a drive letter. -/
def withoutSlash (path : List Char) : List Char :=
  match path.reverse with
  | '/' :: before =>
    let stem := before.reverse
    if stem.contains '/' && !isDriveSpec (afterLastSlash stem) then stem else path
  | _ => path

/-- The segment as it stands after `path`: directly below the root, a drive letter is written with a
colon. -/
def settled (path segment : List Char) : List Char :=
  match segment with
  | [c, _] => if path = ['/'] ∧ isDriveSpec segment then [c, ':'] else segment
  | _ => segment

/-- The path after one more segment, which a slash ends or not. -/
def extend (path segment : List Char) (slash : Bool) : List Char :=
  let ended (cs : List Char) := if slash && cs.getLast? != some '/' then cs ++ ['/'] else cs
  if isDoubleDot segment then ended (shorten (withoutSlash path))
  else if isSingleDot segment then
    if path.getLast? = some '/' then path else path ++ ['/']
  else path ++ settled path segment ++ (if slash then ['/'] else [])

/-- The path with one slash in front. -/
def rooted (path : List Char) : List Char := '/' :: path.dropWhile (· == '/')

/-- The first component of the path is a drive letter. -/
def onDrive : List Char → Bool
  | '/' :: cs => isDrive (cs.takeWhile (· != '/'))
  | _ => false

/-- What ends a segment of a path that is read. -/
def endsSegment (c : Char) : Bool := c == '/' || c == '\\' || c == '?' || c == '#'

/-- Parses a path onto `path`, one segment after the other: the path, with all the slashes in
front, and the text after it. The fuel is more than the length of the text. -/
def parsePath : Nat → List Char → List Char → List Char × List Char
  | 0, path, rest => (path, rest)
  | fuel + 1, path, cs =>
    let segment := encodeBy pathSet (cs.takeWhile (!endsSegment ·))
    match cs.dropWhile (!endsSegment ·) with
    | '/' :: rest => parsePath fuel (extend path segment true) rest
    | '\\' :: rest => parsePath fuel (extend path segment true) rest
    | rest => (extend path segment false, rest)

/-! ## Reading -/

/-- The text without white space around it, and without tabs and line ends in it. -/
def cleaned (cs : List Char) : List Char :=
  (Text.stripBy (·.toNat ≤ 0x20) cs).filter fun c => c != '\t' && c != '\n' && c != '\r'

/-- The text after the colon, if the scheme is `file`. -/
def afterScheme? (cs : List Char) : Option (List Char) :=
  match cs.dropWhile (· != ':') with
  | ':' :: rest =>
    if (cs.takeWhile (· != ':')).map Char.toLower = ['f', 'i', 'l', 'e'] then some rest else none
  | _ => none

/-- Query and fragment of the text after a path. -/
def tails (cs : List Char) : Option (List Char) × Option (List Char) :=
  let fragmentOf (rest : List Char) : Option (List Char) := match rest with
    | '#' :: rest => some (encodeBy fragmentSet rest)
    | _ => none
  match cs with
  | '?' :: rest =>
    (some (encodeBy querySet (rest.takeWhile (· != '#'))), fragmentOf (rest.dropWhile (· != '#')))
  | rest => (none, fragmentOf rest)

/-- A URL of a host and the text from its path on. A drive is one of the machine itself, so a path
on a drive leaves the host out. -/
def build (host start cs : List Char) : FileUrl :=
  let (path, rest) := parsePath (cs.length + 1) start cs
  let (query, fragment) := tails rest
  ⟨if onDrive path then [] else host, rooted path, query, fragment⟩

/-- Reads the text after two slashes: a host, unless a drive letter stands there. Without a host all
of the path is read below the root, so that a slash in front of it counts as an empty first segment
and a drive letter after that slash is not the first. -/
def withHost? (cs : List Char) : Option FileUrl :=
  let name := cs.takeWhile (!endsSegment ·)
  let rest := cs.dropWhile (!endsSegment ·)
  if name.isEmpty || isDriveSpec name then some (build [] ['/'] cs)
  else do
    let host ← Host.serialize? name
    if host = ['l', 'o', 'c', 'a', 'l', 'h', 'o', 's', 't'] then return build [] ['/'] rest
    match rest with
    | '/' :: rest => return build host ['/'] rest
    | '\\' :: rest => return build host ['/'] rest
    | rest => return build host ['/'] rest

def isSlash (c : Char) : Bool := c == '/' || c == '\\'

/-- Reads a file URL. -/
def parse? (s : String) : Option FileUrl := do
  match ← afterScheme? (cleaned s.toList) with
  | a :: b :: rest =>
    if isSlash a && isSlash b then withHost? rest
    else if isSlash a then return build [] [] (a :: b :: rest)
    else return build [] ['/'] (a :: b :: rest)
  | [a] => if isSlash a then return build [] [] [a] else return build [] ['/'] [a]
  | [] => return build [] ['/'] []

/-! ## Writing -/

/-- The URL as it is written. -/
def text (u : FileUrl) : String :=
  let tail (mark : Char) (part : Option (List Char)) : List Char := match part with
    | some cs => mark :: cs
    | none => []
  String.ofList ("file://".toList ++ u.host ++ u.path ++ tail '?' u.query ++ tail '#' u.fragment)

/-! ## Components -/

/-- The last component of a URL. -/
def fileName (u : FileUrl) : List Char := afterLastSlash u.path

/-- The URL without its last component and the slash before that, save the root's. -/
def pop (u : FileUrl) : FileUrl :=
  { u with path := match throughLastSlash u.path with
    | ['/'] => ['/']
    | cs => cs.dropLast }

/-- The URL with one more component; a dot segment is no component and is left out. -/
def push (u : FileUrl) (component : List Char) : FileUrl :=
  if component = ['.'] ∨ component = ['.', '.'] then u
  else
    let clean := component.filter fun c => c != '\t' && c != '\n' && c != '\r'
    let start := if u.path.length = 1 then u.path else u.path ++ ['/']
    { u with path := rooted (extend start (encodeBy componentSet clean) false) }

/-! ## Paths of the file system -/

/-- The components of a path: no empty one, and no dot. -/
def components (path : List Char) : List (List Char) :=
  (path.splitOn '/').filter fun c => !c.isEmpty && c != ['.']

/-- The URL of an absolute path; double dots stay. -/
def ofPath? (path : String) : Option FileUrl :=
  match path.toList with
  | '/' :: cs =>
    let parts := (components cs).map (encodeBy componentSet)
    some ⟨[], '/' :: ['/'].intercalate parts, none, none⟩
  | _ => none

end FileUrl

end ScriptLink
