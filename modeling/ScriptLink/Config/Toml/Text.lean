import ScriptLink.Config.Token

/-!
# ScriptLink.Config.Toml.Text — white space, texts and keys of TOML

* `skipSpace` stays in a line, `skipBlank` passes comments and ends of lines.
* `text?` reads a text in any of the four notations.
* `key?` reads the parts of a key; there are at most `maxParts`.
-/

namespace ScriptLink.Config.Toml

open Token

/-! ## White space -/

def isSpace (c : Char) : Bool := c == ' ' || c == '\t'

def skipSpace (cs : List Char) : List Char := cs.dropWhile isSpace

/-- The rest after the end of a line. -/
def lineEnd? : List Char → Option (List Char)
  | '\n' :: rest => some rest
  | '\r' :: '\n' :: rest => some rest
  | _ => none

/-- The rest after a comment, if there is one. -/
def skipComment (cs : List Char) : List Char :=
  match cs with
  | '#' :: rest => rest.dropWhile isPlain
  | cs => cs

/-- The rest after lines that hold nothing but what `blank` skips; the fuel is a bound on their
number. -/
def skipLines (blank : List Char → List Char) : Nat → List Char → List Char
  | 0, cs => cs
  | fuel + 1, cs =>
    let rest := blank cs
    match lineEnd? rest with
    | some rest => skipLines blank fuel rest
    | none => rest

/-- The rest after white space, comments and lines with nothing else. -/
def skipBlank (cs : List Char) : List Char :=
  skipLines (fun cs => skipComment (skipSpace cs)) cs.length cs

/-! ## Texts -/

/-- A text of one line without escapes after its opening mark. -/
def literal? (cs : List Char) : Option (Taken (List Char)) :=
  match cs.dropWhile (· != '\'') with
  | '\'' :: rest =>
    let s := cs.takeWhile (· != '\'')
    if s.all isPlain then some (s, rest) else none
  | _ => none

/-- The characters after a backslash at the end of a line: white space and line ends are skipped. -/
def continued? (cs : List Char) : Option (List Char) :=
  (lineEnd? (skipSpace cs)).map fun rest => skipLines skipSpace rest.length rest

/-- A text of several lines after its three opening marks; `escapes` are resolved or stand as they
are. -/
def lines? (mark : Char) (escapes : Bool) : Nat → List Char → Option (Taken (List Char))
  | 0, _ => none
  | fuel + 1, cs =>
    match cs with
    | [] => none
    | c :: rest =>
      if c = mark then
        let marks := cs.takeWhile (· == mark)
        let after := cs.dropWhile (· == mark)
        if 5 < marks.length then none
        else if 3 ≤ marks.length then some (marks.drop 3, after)
        else (lines? mark escapes fuel after).map fun (s, rest) => (marks ++ s, rest)
      else if c = '\\' && escapes then
        match continued? rest with
        | some rest => lines? mark escapes fuel rest
        | none => do
          let (e, rest) ← escape? rest
          let (s, rest) ← lines? mark escapes fuel rest
          return (e :: s, rest)
      else
        match lineEnd? cs with
        | some rest => (lines? mark escapes fuel rest).map fun (s, rest) => ('\n' :: s, rest)
        | none =>
          if isPlain c then (lines? mark escapes fuel rest).map fun (s, rest) => (c :: s, rest)
          else none

/-- A text with its opening marks; a line end right after three of them is skipped. -/
def text? (cs : List Char) : Option (Taken (List Char)) :=
  let body (rest : List Char) : List Char := (lineEnd? rest).getD rest
  match cs with
  | '"' :: '"' :: '"' :: rest => lines? '"' true (rest.length + 1) (body rest)
  | '"' :: rest => quoted? rest
  | '\'' :: '\'' :: '\'' :: rest => lines? '\'' false (rest.length + 1) (body rest)
  | '\'' :: rest => literal? rest
  | _ => none

/-! ## Keys -/

/-- A part of a key: a text of one line, or characters without quotation marks. -/
def keyPart? (cs : List Char) : Option (Taken String) :=
  let named (s : Option (Taken (List Char))) : Option (Taken String) :=
    s.map fun (s, rest) => (String.ofList s, rest)
  match cs with
  | '"' :: rest => named (quoted? rest)
  | '\'' :: rest => named (literal? rest)
  | cs => bareKey? cs

/-- The parts of a key between points; the fuel is its length. -/
def keyParts? : Nat → List Char → Option (Taken (List String))
  | 0, _ => none
  | fuel + 1, cs => do
    let (part, rest) ← keyPart? (skipSpace cs)
    match skipSpace rest with
    | '.' :: rest =>
      let (parts, rest) ← keyParts? fuel rest
      return (part :: parts, rest)
    | rest => return ([part], rest)

/-- The most parts of a key. -/
@[irreducible] def maxParts : Nat := 79

/-- A key of not too many parts. -/
def key? (cs : List Char) : Option (Taken (List String)) :=
  (keyParts? cs.length cs).filter fun (parts, _) => parts.length ≤ maxParts

end ScriptLink.Config.Toml
