import ScriptLink.Config.Toml.Bare
import ScriptLink.Config.Toml.Draft
import ScriptLink.Config.Toml.Text

/-!
# ScriptLink.Config.Toml.Document — TOML as a value

`Toml.read?` reads a text of keys and values and gives the object that it describes. It gives nothing for
a text that is not TOML: one with a line that is none of comment, header and key with value, with a value
that is no value, or with a key or a table defined twice.

* A text is read from left to right; every step gives what it read and the characters after it.
* Arrays and tables on one line nest at most `maxNesting` deep.
-/

namespace ScriptLink.Config.Toml

open Token

/-! ## Values -/

/-- The items of an array after its opening bracket; the fuel is a bound on their number. -/
def array? (value : List Char → Option (Taken Value)) :
    Nat → List Char → Option (Taken (List Value))
  | 0, _ => none
  | fuel + 1, cs =>
    match skipBlank cs with
    | ']' :: rest => some ([], rest)
    | cs => do
      let (v, rest) ← value cs
      match skipBlank rest with
      | ',' :: rest =>
        let (vs, rest) ← array? value fuel rest
        return (v :: vs, rest)
      | ']' :: rest => return ([v], rest)
      | _ => none

/-- The keys and values of a table on one line after its opening brace, entered into a draft; the fuel is
a bound on their number. -/
def inline? (value : List Char → Option (Taken Value)) :
    Nat → Draft → List Char → Option (Taken Draft)
  | 0, _, _ => none
  | fuel + 1, d, cs => do
    let (key, rest) ← key? cs
    match rest with
    | '=' :: rest =>
      let (v, rest) ← value (skipSpace rest)
      let d ← d.define? [] key v
      match skipSpace rest with
      | ',' :: rest => inline? value fuel d rest
      | '\x7d' :: rest => return (d, rest)
      | _ => none
    | _ => none

/-- A text, or a bare value. -/
def single? (cs : List Char) : Option (Taken Value) :=
  match cs with
  | '"' :: _ => (text? cs).map fun (s, rest) => (.str (String.ofList s), rest)
  | '\'' :: _ => (text? cs).map fun (s, rest) => (.str (String.ofList s), rest)
  | cs =>
    let (s, rest) := bareText cs
    (bare? s).map fun v => (v, rest)

/-- A value in which arrays and tables nest at most so deep. -/
def valueWithin? : Nat → List Char → Option (Taken Value)
  | 0, cs => single? cs
  | depth + 1, cs =>
    match cs with
    | '[' :: rest =>
      (array? (valueWithin? depth) (rest.length + 1) rest).map fun (vs, rest) => (.arr vs, rest)
    | '\x7b' :: rest =>
      match skipSpace rest with
      | '\x7d' :: rest => some (.obj [], rest)
      | rest =>
        (inline? (valueWithin? depth) (rest.length + 1) .empty rest).map fun (d, rest) =>
          (d.content, rest)
    | cs => single? cs

/-- The most arrays and tables on one line around a value. -/
@[irreducible] def maxNesting : Nat := 79

/-- A value with no more than `maxNesting` arrays and tables around it. -/
def value? (cs : List Char) : Option (Taken Value) := valueWithin? maxNesting cs

/-! ## Documents -/

/-- A document as far as it was read, and the table to which keys belong. -/
abbrev State : Type := Place × Draft

/-- The header after its opening brackets; `close` is what ends it. -/
def header? (close : List Char) (cs : List Char) : Option (Taken (List String)) := do
  let (names, rest) ← key? cs
  if close.isPrefixOf rest then return (names, rest.drop close.length) else none

/-- A header or a key with its value, entered into what was read. -/
def statement? (s : State) (cs : List Char) : Option (Taken State) :=
  match cs with
  | '[' :: '[' :: rest => do
    let (names, rest) ← header? [']', ']'] rest
    return (← s.2.openRow? names, rest)
  | '[' :: rest => do
    let (names, rest) ← header? [']'] rest
    return (← s.2.openTable? names, rest)
  | cs => do
    let (key, rest) ← key? cs
    match rest with
    | '=' :: rest =>
      let (v, rest) ← value? (skipSpace rest)
      return ((s.1, ← s.2.define? s.1 key v), rest)
    | _ => none

/-- Statements to the end, each ending its line; the fuel is a bound on their number. -/
def statements? : Nat → State → List Char → Option State
  | 0, _, _ => none
  | fuel + 1, s, cs =>
    match skipBlank cs with
    | [] => some s
    | cs => do
      let (s, rest) ← statement? s cs
      match skipComment (skipSpace rest) with
      | [] => some s
      | rest =>
        let rest ← lineEnd? rest
        statements? fuel s rest

/-- The object that a text describes; a byte order mark in front is skipped. -/
def read? (s : String) : Option Value :=
  let cs := match s.toList with
    | '\uFEFF' :: rest => rest
    | cs => cs
  (statements? (cs.length + 1) ([], .empty) cs).map fun s => s.2.content

end ScriptLink.Config.Toml
