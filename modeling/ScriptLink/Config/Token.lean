import ScriptLink.Json.Reader

/-!
# ScriptLink.Config.Token — the pieces of which files and variables are made

Files and variables write quoted texts with the same escapes and keys with the same characters.

* `Token.quoted?` reads a quoted text after its opening mark, up to the closing one; `isPlain` says which
  characters may stand in it for themselves.
* Every step gives what it read and the characters after it.
-/

namespace ScriptLink.Config.Token

/-- What a step read, and the characters after it. -/
abbrev Taken (α : Type) : Type := α × List Char

/-- The number that hexadecimal digits are. -/
def hexNumber? (ds : List Char) : Option Nat :=
  ds.foldlM (fun n c => (Json.hexValue? c).map (n * 16 + ·)) 0

/-- The character with the number that so many hexadecimal digits are. -/
def numbered? (digits : Nat) (cs : List Char) : Option (Taken Char) := do
  let n ← hexNumber? (cs.take digits)
  if digits ≤ cs.length ∧ n.isValidChar then return (Char.ofNat n, cs.drop digits) else none

/-- The character that an escape after its backslash stands for. -/
def escape? (cs : List Char) : Option (Taken Char) :=
  match cs with
  | 'b' :: rest => some ('\x08', rest)
  | 't' :: rest => some ('\t', rest)
  | 'n' :: rest => some ('\n', rest)
  | 'f' :: rest => some ('\x0c', rest)
  | 'r' :: rest => some ('\r', rest)
  | '"' :: rest => some ('"', rest)
  | '\\' :: rest => some ('\\', rest)
  | 'u' :: rest => numbered? 4 rest
  | 'U' :: rest => numbered? 8 rest
  | _ => none

/-- A character that may stand in a text of one line: a tab, or what is no control character of seven
bits. -/
def isPlain (c : Char) : Bool := c == '\t' || (0x20 ≤ c.toNat && c.toNat != 0x7F)

/-- A quoted text after its opening mark; the fuel is its length. -/
def quotedFor? : Nat → List Char → Option (Taken (List Char))
  | _, '"' :: rest => some ([], rest)
  | fuel + 1, '\\' :: rest => do
    let (c, rest) ← escape? rest
    let (s, rest) ← quotedFor? fuel rest
    return (c :: s, rest)
  | fuel + 1, c :: rest =>
    if isPlain c then do
      let (s, rest) ← quotedFor? fuel rest
      return (c :: s, rest)
    else none
  | _, _ => none

/-- A quoted text after its opening mark. -/
def quoted? (cs : List Char) : Option (Taken (List Char)) := quotedFor? cs.length cs

/-- A character of a key without quotation marks. -/
def isKeyChar (c : Char) : Bool := c.isAlphanum || c == '_' || c == '-'

/-- A key without quotation marks. -/
def bareKey? (cs : List Char) : Option (Taken String) :=
  let key := cs.takeWhile isKeyChar
  if key.isEmpty then none else some (String.ofList key, cs.dropWhile isKeyChar)

end ScriptLink.Config.Token
