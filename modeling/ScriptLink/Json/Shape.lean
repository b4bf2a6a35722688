import ScriptLink.Json.Reader

/-!
# ScriptLink.Json.Shape — reading JSON of a given shape

Where a text is to hold a certain shape, it is read from left to right in that shape, so that the first
problem wins, be it one of JSON or one of shape.

* `text`, `word`, `truth`, `named`, `optional` and `listOf` are the shapes of single values.
* `record` reads an object with known fields, or an array with their values in order. Fields that are
  missing keep what they are; fields that are not known are refused or skipped.
* `skip` reads a value of any shape and any depth and forgets it; numbers and characters in it need not
  exist.
-/

namespace ScriptLink.Json

/-! ## Refusing -/

/-- The error of a value that is of another kind than expected. The value is read first unless it is an
array or an object. -/
def refuse (expected : String) (cs : List Char) : ReadError :=
  match cs with
  | '[' :: _ => .unsuitable (.kind .sequence expected)
  | '\x7b' :: _ => .unsuitable (.kind .map expected)
  | cs =>
    match scalar cs with
    | .error e => e
    | .ok (.null, _) => .unsuitable (.kind .null expected)
    | .ok (.bool b, _) => .unsuitable (.kind (.boolean b) expected)
    | .ok (.num n, _) => .unsuitable (.kind (.number n) expected)
    | .ok (.str s, _) => .unsuitable (.kind (.text s) expected)
    | .ok _ => .malformed

/-- The rest after the colon of a member. -/
def colon (cs : List Char) : Except ReadError (List Char) :=
  match skipSpace cs with
  | ':' :: rest => .ok rest
  | rest => .error (stuck rest)

/-! ## Single values -/

def text (cs : List Char) : Except ReadError (Taken String) :=
  match skipSpace cs with
  | '"' :: rest => string rest
  | rest => .error (refuse "a string" rest)

/-- An integer between zero and `2^64 - 1`. -/
def word (cs : List Char) : Except ReadError (Taken UInt64) :=
  let start := skipSpace cs
  match scalar start with
  | .ok (v, rest) =>
    match v.asWord? with
    | some n => .ok (n, rest)
    | none => .error (refuse "u64" start)
  | .error _ => .error (refuse "u64" start)

def truth (cs : List Char) : Except ReadError (Taken Bool) :=
  let start := skipSpace cs
  match scalar start with
  | .ok (.bool b, rest) => .ok (b, rest)
  | _ => .error (refuse "a boolean" start)

def lookupName (spellings : List (String × α)) (name : String) : Except ReadError α :=
  match spellings.lookup name with
  | some x => .ok x
  | none => .error (.unsuitable (.unknownName name (spellings.map Prod.fst)))

/-- One of several names, alone or as the only key of an object with the value `null`. -/
def named (spellings : List (String × α)) (cs : List Char) : Except ReadError (Taken α) :=
  match skipSpace cs with
  | '"' :: rest => do
    let (name, rest) ← string rest
    return (← lookupName spellings name, rest)
  | '\x7b' :: rest => do
    let (name, rest) ← text rest
    let x ← lookupName spellings name
    let rest ← colon rest
    match skipSpace rest with
    | 'n' :: rest =>
      let ((), rest) ← literal () ['u', 'l', 'l'] rest
      match skipSpace rest with
      | '\x7d' :: rest => return (x, rest)
      | rest => .error (stuck rest)
    | rest => .error (refuse "unit" rest)
  | rest => .error (stuck rest)

/-- An item, or `null` for none. -/
def optional (item : Step α) (cs : List Char) : Except ReadError (Taken (Option α)) :=
  match skipSpace cs with
  | 'n' :: rest => literal none ['u', 'l', 'l'] rest
  | rest => do
    let (x, rest) ← item rest
    return (some x, rest)

/-- An array of items. -/
def listOf (item : Step α) (cs : List Char) : Except ReadError (Taken (List α)) :=
  match skipSpace cs with
  | '[' :: rest => items item rest
  | rest => .error (refuse "a sequence" rest)

/-! ## Skipping -/

/-- A string after its opening quotation mark, whatever its numeric escapes stand for. -/
def skipString : Step Unit
  | [] => .error .ended
  | '"' :: rest => .ok ((), rest)
  | '\\' :: 'u' :: a :: b :: c :: d :: rest =>
    if (hexWord? a b c d).isSome then skipString rest else .error .malformed
  | '\\' :: 'u' :: rest => .error (shortEscape rest)
  | ['\\'] => .error .ended
  | '\\' :: c :: rest => if (escaped? c).isSome then skipString rest else .error .malformed
  | c :: rest => if c.toNat < 0x20 then .error .malformed else skipString rest

/-- A number, whatever its size. -/
def skipNumber (cs : List Char) : Except ReadError (Taken Unit) := do
  let cs := match cs with
    | '-' :: rest => rest
    | cs => cs
  let (_, cs) ← wholeDigits cs
  let (_, cs) ← fraction cs
  let (_, cs) ← exponent? cs
  return ((), cs)

/-- A value that is no array and no object. -/
def skipScalar (cs : List Char) : Except ReadError (Taken Unit) :=
  match cs with
  | '"' :: rest => skipString rest
  | c :: _ =>
    if c = '-' ∨ c.isDigit then skipNumber cs
    else do
      let (_, rest) ← scalar cs
      return ((), rest)
  | [] => .error .ended

/-- A value that nests at most so deep. -/
def skipWithin : Nat → Step Unit
  | 0, cs => skipScalar (skipSpace cs)
  | depth + 1, cs =>
    match skipSpace cs with
    | '[' :: rest => do
      let (_, rest) ← items (skipWithin depth) rest
      return ((), rest)
    | '\x7b' :: rest => do
      let (_, rest) ← members skipString (skipWithin depth) rest
      return ((), rest)
    | rest => skipScalar rest

/-- A value; it cannot nest deeper than its text is long. -/
def skip (cs : List Char) : Except ReadError (Taken Unit) := skipWithin cs.length cs

/-! ## Records -/

/-- A field of a record and how its value is put into the record. -/
structure Field (ρ : Type) where
  name : String
  read : ρ → Step ρ

/-- The field with an item that `put` puts into the record. -/
def Field.of (name : String) (item : Step α) (put : ρ → α → ρ) : Field ρ where
  name := name
  read r cs := do
    let (x, rest) ← item cs
    return (put r x, rest)

/-- How a record is read. -/
structure Shape (ρ : Type) where
  fields : List (Field ρ)
  /-- Fields that are not known are skipped. -/
  lenient : Bool
  /-- An array needs an item for each field. -/
  complete : Bool
  expected : String

/-- A record and the fields that were read. -/
abbrev Progress (ρ : Type) : Type := ρ × List String

namespace Shape

/-- What follows the key of a member. -/
def entry (shape : Shape ρ) (key : String) (p : Progress ρ) : Step (Progress ρ) := fun cs =>
  match shape.fields.find? fun f => f.name == key with
  | none =>
    if shape.lenient then do
      let rest ← colon cs
      let (_, rest) ← skip rest
      return (p, rest)
    else .error (.unsuitable (.unknownField key (shape.fields.map Field.name)))
  | some f =>
    if p.2.contains key then .error (.unsuitable (.duplicateField key))
    else do
      let rest ← colon cs
      let (r, rest) ← f.read p.1 rest
      return ((r, key :: p.2), rest)

/-- A member with its key. -/
def member (shape : Shape ρ) (p : Progress ρ) (cs : List Char) :
    Except ReadError (Taken (Progress ρ)) :=
  match cs with
  | '"' :: rest => do
    let (key, rest) ← string rest
    shape.entry key p rest
  | rest => .error (stuck rest)

/-- The members after the first and the closing brace; the fuel is a bound on their number. -/
def laterMembers (shape : Shape ρ) : Nat → Progress ρ → Step ρ
  | 0, _, _ => .error .ended
  | fuel + 1, p, cs =>
    match skipSpace cs with
    | '\x7d' :: rest => .ok (p.1, rest)
    | ',' :: rest => do
      let (p, rest) ← shape.member p (skipSpace rest)
      laterMembers shape fuel p rest
    | rest => .error (stuck rest)

/-- The members of an object after its opening brace, and that at its end. -/
def members (shape : Shape ρ) (start : ρ) (cs : List Char) : Except ReadError (Taken ρ) :=
  match skipSpace cs with
  | '\x7d' :: rest => .ok (start, rest)
  | rest => do
    let (p, rest) ← shape.member (start, []) rest
    shape.laterMembers (rest.length + 1) p rest

/-- The closing bracket of an array. -/
def close (r : ρ) (cs : List Char) : Except ReadError (Taken ρ) :=
  match skipSpace cs with
  | ']' :: rest => .ok (r, rest)
  | rest => .error (stuck rest)

/-- The items for the fields, with the closing bracket; `first` is there no item before them. -/
def itemsFor (shape : Shape ρ) (first : Bool) : List (Field ρ) → ρ → Step ρ
  | [], r, cs => close r cs
  | f :: fields, r, cs =>
    match skipSpace cs with
    | ']' :: rest =>
      if shape.complete then
        .error (.unsuitable (.tooShort (shape.fields.length - (f :: fields).length)
          s!"struct {shape.expected} with {shape.fields.length} elements"))
      else .ok (r, rest)
    | ',' :: rest =>
      if first then .error (stuck (',' :: rest))
      else
        match skipSpace rest with
        | ']' :: _ => .error .malformed
        | rest => do
          let (r, rest) ← f.read r rest
          itemsFor shape false fields r rest
    | rest =>
      if first then do
        let (r, rest) ← f.read r rest
        itemsFor shape false fields r rest
      else .error (stuck rest)

end Shape

/-- A record: an object with its fields, or an array with their values. -/
def record (shape : Shape ρ) (start : ρ) (cs : List Char) : Except ReadError (Taken ρ) :=
  match skipSpace cs with
  | '[' :: rest => shape.itemsFor true shape.fields start rest
  | '\x7b' :: rest => shape.members start rest
  | rest => .error (refuse s!"struct {shape.expected}" rest)

end ScriptLink.Json
