import ScriptLink.Config.Layer
import ScriptLink.Config.Token

/-!
# ScriptLink.Config.Variable — settings from environment variables

A variable whose name begins with `DUPLEX_`, in capital or small letters, is the setting named by the
rest. A point or two underscores in a row lead into a table.

* A value that has commas and does not begin with a bracket, a brace or a quotation mark is a list.
* A value that reads as a truth value, a number, a quoted text, a list in brackets or a table in braces
  is that; any other value is a text. White space around it is dropped.
* A number with a point that is infinite gives `null`.
-/

namespace ScriptLink.Config.Variable

open Token

/-! ## Tokens -/

def isSpace (c : Char) : Bool := c == ' ' || c == '\t' || c == '\n' || c == '\x0c' || c == '\r'

def skipSpace (cs : List Char) : List Char := cs.dropWhile isSpace

/-- What ends a bare value. -/
def isSeparator (c : Char) : Bool := [',', '\x7b', '\x7d', '[', ']'].contains c

/-- The characters after a word in small letters, if it stands in front in capital or small ones. -/
def after? : List Char → List Char → Option (List Char)
  | [], cs => some cs
  | w :: word, c :: cs => if w = c.toLower then after? word cs else none
  | _ :: _, [] => none

/-- The characters in front that take at most so many bytes. -/
def within : Nat → List Char → List Char
  | _, [] => []
  | bytes, c :: cs => if c.utf8Size ≤ bytes then c :: within (bytes - c.utf8Size) cs else []

/-- A quoted text after its opening mark. Of the characters before its first escape so many bytes count as
there are characters; a text without escapes counts whole. -/
def quotedText? (cs : List Char) : Option (Taken String) := do
  let (s, rest) ← quoted? cs
  let plain := cs.takeWhile fun c => c != '"' && c != '\\'
  let kept := match cs.drop plain.length with
    | '\\' :: _ => within plain.length plain ++ s.drop plain.length
    | _ => s
  return (String.ofList kept, rest)

/-! ## Numbers -/

/-- Nothing but digits after a sign or without one. -/
def signedDigits? (cs : List Char) : Option (Option Char × Nat) :=
  let (sign, ds) := match cs with
    | '+' :: rest => (some '+', rest)
    | '-' :: rest => (some '-', rest)
    | cs => (none, cs)
  if ds.isEmpty ∨ ¬ds.all Char.isDigit then none else some (sign, Json.digitsValue ds)

/-- An integer between `-2^63` and `2^64 - 1`. -/
def integer? (cs : List Char) : Option Int :=
  match signedDigits? cs with
  | none => none
  | some (some '-', n) => if n ≤ 0x8000000000000000 then some (-(n : Int)) else none
  | some (_, n) => if n < 0x10000000000000000 then some n else none

/-- The exponent of a number, which may be absent. -/
def exponent? : List Char → Option Int
  | [] => some 0
  | e :: ds =>
    if e == 'e' || e == 'E' then
      (signedDigits? ds).map fun (sign, n) => if sign = some '-' then -(n : Int) else n
    else none

/-- A number with a point, and maybe an exponent; `null` where it is infinite. -/
def real? (cs : List Char) : Option Value :=
  let (negative, cs) := match cs with
    | '+' :: rest => (false, rest)
    | '-' :: rest => (true, rest)
    | cs => (false, cs)
  match cs.dropWhile Char.isDigit with
  | '.' :: rest =>
    let fraction := rest.takeWhile Char.isDigit
    let ds := cs.takeWhile Char.isDigit ++ fraction
    if ds.isEmpty then none
    else
      (exponent? (rest.dropWhile Char.isDigit)).map fun e =>
        match Binary64.ofDecimal? negative (Json.digitsValue ds) (e - fraction.length) with
        | some x => .num (.real x)
        | none => .null
  | _ => none

/-- The value without quotation marks: a number if it reads as one, and else a text. -/
def bare (cs : List Char) : Value :=
  match real? cs, integer? cs with
  | some v, _ => v
  | none, some i => .num (.int i)
  | none, none => .str (String.ofList cs)

/-- The characters without white space around them. -/
def trimmed (cs : List Char) : List Char := Text.stripBy Text.isBlank cs

/-! ## Values -/

/-- The items after an opening bracket, up to the closing one; the fuel is a bound on their number. -/
def items? (close : Char) (item : List Char → Option (Taken α)) :
    Nat → List Char → Option (Taken (List α))
  | 0, _ => none
  | fuel + 1, cs =>
    match cs with
    | [] => none
    | c :: rest =>
      if c = close then some ([], rest)
      else do
        let (x, rest) ← item cs
        match rest with
        | [] => none
        | c :: rest =>
          if c = ',' then
            let (xs, rest) ← items? close item fuel rest
            return (x :: xs, rest)
          else if c = close then return ([x], rest)
          else none

/-- A key and a value of a table in braces. -/
def pair? (item : List Char → Option (Taken Value)) (cs : List Char) :
    Option (Taken (String × Value)) := do
  let cs := skipSpace cs
  let (key, rest) ← match cs with
    | '"' :: rest => quotedText? rest
    | cs => bareKey? cs
  match skipSpace rest with
  | '=' :: rest =>
    let (v, rest) ← item rest
    return ((key, v), rest)
  | _ => none

/-- A value and the rest after it and the white space that follows; the fuel is a bound on how deep values
nest. -/
def value? : Nat → List Char → Option (Taken Value)
  | 0, _ => none
  | fuel + 1, cs =>
    let cs := skipSpace cs
    let found : Option (Taken Value) :=
      match after? ['t', 'r', 'u', 'e'] cs, after? ['f', 'a', 'l', 's', 'e'] cs with
      | some rest, _ => some (.bool true, rest)
      | none, some rest => some (.bool false, rest)
      | none, none =>
        match cs with
        | '\x7b' :: rest =>
          (items? '\x7d' (pair? (value? fuel)) (rest.length + 1) rest).map fun (ms, rest) =>
            (Value.object ms, rest)
        | '[' :: rest =>
          (items? ']' (value? fuel) (rest.length + 1) rest).map fun (vs, rest) => (.arr vs, rest)
        | '"' :: rest => (quotedText? rest).map fun (s, rest) => (.str s, rest)
        | '\'' :: c :: '\'' :: rest => some (.str (String.singleton c), rest)
        | '\'' :: _ => none
        | cs => some (bare (trimmed (cs.takeWhile (!isSeparator ·))), cs.dropWhile (!isSeparator ·))
    found.map fun (v, rest) => (v, skipSpace rest)

/-- A value that is a list without brackets. -/
def isList (cs : List Char) : Bool :=
  cs.contains ',' && match cs with
    | c :: _ => !(['[', '\x7b', '"', '\''].contains c)
    | [] => false

/-- The value of the text of a variable. -/
def value (s : String) : Value :=
  let cs := trimmed s.toList
  if isList cs then .arr ((cs.splitOn ',').map fun item => .str (String.ofList (trimmed item)))
  else match value? (cs.length + 1) cs with
    | some (v, []) => v
    | _ => .str (String.ofList cs)

/-! ## Names -/

/-- What the names of all settings begin with. -/
def beginning : List Char := ['d', 'u', 'p', 'l', 'e', 'x', '_']

/-- The text with a point for every two underscores, taken from the left. -/
def pointed : List Char → List Char
  | [] => []
  | '_' :: '_' :: rest => '.' :: pointed rest
  | c :: rest => c :: pointed rest

/-- The names that lead to the setting of a variable, the outermost first: the parts of its name between
points, in small letters. A name with an empty part is none. -/
def path? (name : String) : Option (List String) := do
  let rest ← after? beginning (trimmed name.toList)
  let parts := (trimmed (pointed rest)).splitOn '.'
  if parts.any List.isEmpty then none
  else return parts.map fun part => String.ofList (part.map Char.toLower)

/-- The layer of one variable, with a table for each name on the way. -/
def setting? (name value : String) : Option Layer :=
  (path? name).map fun path =>
    path.foldr (fun part v => Layer.single part v) (Variable.value value)

/-- The settings of variables, each over those before it. -/
def layer (environment : List (String × String)) : Layer :=
  Layer.stack (environment.filterMap fun (name, value) => setting? name value)

end ScriptLink.Config.Variable
