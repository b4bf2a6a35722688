import ScriptLink.Json.Mismatch

/-!
# ScriptLink.Json.Reader — reading JSON text

The grammar is the strict one: white space is space, tab, line feed and carriage return; a string
holds no raw control character and no half of a surrogate pair; a number is within the range of
binary64; arrays and objects nest at most 127 deep; nothing follows the value.

A number with a fraction or an exponent, or one that no integer of 64 bits holds, is the binary64 number nearest to what
is written. A reader that computes with rounded intermediate values can miss it by the last bit, in numbers of more
than fifteen digits or with large exponents such as `9007199254740993.0`, and at the end of the range, as for
`1.7976931348623158e308`, it can decide otherwise whether there is such a number at all.

* Every step takes the characters left and gives what it read and the characters after it.
* `ReadError` tells a text that ends too early, one that is no JSON, and one of another shape than
  asked for; the first problem from the left is the one reported.
* `Value.read` reads a whole text; the result is `Value.Sorted`.
-/

namespace ScriptLink.Json

/-- Why a text is not the JSON asked for. -/
inductive ReadError where
  /-- The text ends too early. -/
  | ended
  /-- The text goes on as no JSON does. -/
  | malformed
  /-- The text is JSON of another shape. -/
  | unsuitable (m : Mismatch)
  deriving DecidableEq, Repr, Inhabited

/-- What was read, and the characters after it. -/
abbrev Taken (α : Type) := α × List Char

/-- A step: it reads from the front of the characters left. -/
abbrev Step (α : Type) := List Char → Except ReadError (Taken α)

/-- The white space of JSON, which is less than that of Unicode. -/
def isSpace (c : Char) : Bool := c == ' ' || c == '\t' || c == '\n' || c == '\r'

def skipSpace (cs : List Char) : List Char := cs.dropWhile isSpace

/-- The error of a token that cannot go on at `cs`. -/
def stuck : List Char → ReadError
  | [] => .ended
  | _ :: _ => .malformed

/-- Reads a word that stands for a value. -/
def literal (v : α) : List Char → Step α
  | [], cs => .ok (v, cs)
  | _ :: _, [] => .error .ended
  | w :: word, c :: cs => if w = c then literal v word cs else .error .malformed

/-! ## Strings -/

/-- The value of a hexadecimal digit, capital or small. -/
def hexValue? (c : Char) : Option Nat :=
  if '0' ≤ c ∧ c ≤ '9' then some (c.toNat - '0'.toNat)
  else if 'a' ≤ c ∧ c ≤ 'f' then some (c.toNat - 'a'.toNat + 10)
  else if 'A' ≤ c ∧ c ≤ 'F' then some (c.toNat - 'A'.toNat + 10)
  else none

/-- The number that four hexadecimal digits write. -/
def hexWord? (a b c d : Char) : Option Nat := do
  return (((← hexValue? a) * 16 + (← hexValue? b)) * 16 + (← hexValue? c)) * 16 + (← hexValue? d)

/-- The first half of a surrogate pair. -/
def isLead (n : Nat) : Bool := 0xD800 ≤ n && n < 0xDC00

/-- The second half of a surrogate pair. -/
def isTrail (n : Nat) : Bool := 0xDC00 ≤ n && n < 0xE000

/-- The character of a surrogate pair. -/
def pairChar (lead trail : Nat) : Char :=
  Char.ofNat (0x10000 + (lead - 0xD800) * 0x400 + (trail - 0xDC00))

/-- The character that a backslash and a letter stand for. -/
def escaped? : Char → Option Char
  | '"' => some '"'
  | '\\' => some '\\'
  | '/' => some '/'
  | 'b' => some '\x08'
  | 'f' => some '\x0c'
  | 'n' => some '\n'
  | 'r' => some '\r'
  | 't' => some '\t'
  | _ => none

/-- The error of a numeric escape with fewer than four characters left: the text ends too early
unless four bytes are left all the same. -/
def shortEscape (cs : List Char) : ReadError :=
  if (String.ofList cs).utf8ByteSize < 4 then .ended else .malformed

/-- The error after the first half of a surrogate pair whose second half does not follow. -/
def lonePair : List Char → ReadError
  | [] => .ended
  | ['\\'] => .ended
  | '\\' :: 'u' :: rest => if rest.length < 4 then shortEscape rest else .malformed
  | _ => .malformed

/-- Puts a character before those that were read. -/
def push (c : Char) :
    Except ReadError (Taken (List Char)) → Except ReadError (Taken (List Char))
  | .ok (cs, rest) => .ok (c :: cs, rest)
  | .error e => .error e

/-- The characters of a string after its opening quotation mark. -/
def stringChars : Step (List Char)
  | [] => .error .ended
  | '"' :: rest => .ok ([], rest)
  | '\\' :: 'u' :: a :: b :: c :: d :: rest =>
    match hexWord? a b c d with
    | none => .error .malformed
    | some n =>
      if isLead n then
        match rest with
        | '\\' :: 'u' :: e :: f :: g :: h :: rest =>
          match hexWord? e f g h with
          | none => .error .malformed
          | some m => if isTrail m then push (pairChar n m) (stringChars rest) else .error .malformed
        | rest => .error (lonePair rest)
      else if isTrail n then .error .malformed
      else push (Char.ofNat n) (stringChars rest)
  | '\\' :: 'u' :: rest => .error (shortEscape rest)
  | ['\\'] => .error .ended
  | '\\' :: c :: rest =>
    match escaped? c with
    | none => .error .malformed
    | some e => push e (stringChars rest)
  | c :: rest => if c.toNat < 0x20 then .error .malformed else push c (stringChars rest)

/-- A string after its opening quotation mark. -/
def string (cs : List Char) : Except ReadError (Taken String) := do
  let (s, rest) ← stringChars cs
  return (String.ofList s, rest)

/-! ## Numbers -/

/-- The number that decimal digits write. -/
def digitsValue (ds : List Char) : Nat := Nat.ofDigitChars 10 ds 0

/-- One digit or more. -/
def digits (cs : List Char) : Except ReadError (Taken (List Char)) :=
  let ds := cs.takeWhile Char.isDigit
  let rest := cs.dropWhile Char.isDigit
  if ds.isEmpty then .error (stuck rest) else .ok (ds, rest)

/-- Digits without a needless zero in front. -/
def wholeDigits (cs : List Char) : Except ReadError (Taken (List Char)) := do
  let (ds, rest) ← digits cs
  match ds with
  | '0' :: _ :: _ => .error .malformed
  | _ => return (ds, rest)

/-- The digits after a point, of which there is at least one, or nothing. -/
def fraction : Step (List Char)
  | '.' :: rest => digits rest
  | cs => .ok ([], cs)

/-- The exponent of a number, if it has one. -/
def exponent? : Step (Option Int)
  | c :: rest =>
    if c = 'e' ∨ c = 'E' then
      match rest with
      | '-' :: rest => do
        let (ds, rest) ← digits rest
        return (some (-(digitsValue ds : Int)), rest)
      | '+' :: rest => do
        let (ds, rest) ← digits rest
        return (some (digitsValue ds : Int), rest)
      | rest => do
        let (ds, rest) ← digits rest
        return (some (digitsValue ds : Int), rest)
    else .ok (none, c :: rest)
  | [] => .ok (none, [])

/-- A number without fraction and exponent is an integer where it fits one; minus zero is none. -/
def wholeNumber? (negative : Bool) (n : Nat) : Option Number :=
  let i : Int := if negative then -(n : Int) else n
  if Number.Fits i ∧ ¬(negative ∧ n = 0) then some (.int i)
  else (Binary64.ofDecimal? negative n 0).map .real

/-- The number with the given parts, unless it is beyond the range of binary64. -/
def assemble? (negative : Bool) (whole frac : List Char) (e : Option Int) : Option Number :=
  if frac.isEmpty && e.isNone then wholeNumber? negative (digitsValue whole)
  else (Binary64.ofDecimal? negative (digitsValue (whole ++ frac))
    (e.getD 0 - frac.length)).map .real

/-- A number. One beyond the range of binary64 is no number, wherever it stands. -/
def number (cs : List Char) : Except ReadError (Taken Number) := do
  let (negative, cs) := match cs with
    | '-' :: rest => (true, rest)
    | cs => (false, cs)
  let (whole, cs) ← wholeDigits cs
  let (frac, cs) ← fraction cs
  let (e, cs) ← exponent? cs
  match assemble? negative whole frac e with
  | some n => return (n, cs)
  | none => .error .malformed

/-! ## Arrays and objects -/

/-- The items after the first; the fuel is a bound on their number. -/
def laterItems (item : Step α) : Nat → Step (List α)
  | 0, _ => .error .ended
  | fuel + 1, cs =>
    match skipSpace cs with
    | ']' :: rest => .ok ([], rest)
    | ',' :: rest =>
      match skipSpace rest with
      | ']' :: _ => .error .malformed
      | rest => do
        let (x, rest) ← item rest
        let (xs, rest) ← laterItems item fuel rest
        return (x :: xs, rest)
    | rest => .error (stuck rest)

/-- The items of an array after its opening bracket, with commas between them. -/
def items (item : Step α) (cs : List Char) :
    Except ReadError (Taken (List α)) :=
  match skipSpace cs with
  | ']' :: rest => .ok ([], rest)
  | rest => do
    let (x, rest) ← item rest
    let (xs, rest) ← laterItems item (rest.length + 1) rest
    return (x :: xs, rest)

/-- A key, the colon, and a value; `key` reads the key after its opening quotation mark. -/
def member (key : Step κ) (item : Step α) (cs : List Char) :
    Except ReadError (Taken (κ × α)) :=
  match cs with
  | '"' :: rest => do
    let (k, rest) ← key rest
    match skipSpace rest with
    | ':' :: rest =>
      let (x, rest) ← item rest
      return ((k, x), rest)
    | rest => .error (stuck rest)
  | rest => .error (stuck rest)

/-- The members after the first; the fuel is a bound on their number. -/
def laterMembers (key : Step κ) (item : Step α) : Nat → Step (List (κ × α))
  | 0, _ => .error .ended
  | fuel + 1, cs =>
    match skipSpace cs with
    | '\x7d' :: rest => .ok ([], rest)
    | ',' :: rest => do
      let (m, rest) ← member key item (skipSpace rest)
      let (ms, rest) ← laterMembers key item fuel rest
      return (m :: ms, rest)
    | rest => .error (stuck rest)

/-- The members of an object after its opening brace, with commas between them, in the order of the text. -/
def members (key : Step κ) (item : Step α) (cs : List Char) :
    Except ReadError (Taken (List (κ × α))) :=
  match skipSpace cs with
  | '\x7d' :: rest => .ok ([], rest)
  | rest => do
    let (m, rest) ← member key item rest
    let (ms, rest) ← laterMembers key item (rest.length + 1) rest
    return (m :: ms, rest)

/-! ## Values -/

/-- How deep arrays and objects may nest. The number is kept folded, since unfolding it would unroll
the reader so many times. -/
@[irreducible] def maxDepth : Nat := 127

/-- A value that nests nothing. -/
def scalar (cs : List Char) : Except ReadError (Taken Value) :=
  match cs with
  | 'n' :: rest => literal .null ['u', 'l', 'l'] rest
  | 't' :: rest => literal (.bool true) ['r', 'u', 'e'] rest
  | 'f' :: rest => literal (.bool false) ['a', 'l', 's', 'e'] rest
  | '"' :: rest => do
    let (s, rest) ← string rest
    return (.str s, rest)
  | c :: _ =>
    if c = '-' ∨ c.isDigit then do
      let (n, rest) ← number cs
      return (.num n, rest)
    else .error .malformed
  | [] => .error .ended

/-- A value whose arrays and objects nest at most `depth` deep. -/
def value : Nat → Step Value
  | 0, cs => scalar (skipSpace cs)
  | depth + 1, cs =>
    match skipSpace cs with
    | '[' :: rest => do
      let (xs, rest) ← items (value depth) rest
      return (.arr xs, rest)
    | '\x7b' :: rest => do
      let (ms, rest) ← members string (value depth) rest
      return (Value.object ms, rest)
    | rest => scalar rest

/-- What a step reads from a whole text, with nothing but white space after it. -/
def whole (step : Step α) (cs : List Char) : Except ReadError α := do
  let (x, rest) ← step cs
  if (skipSpace rest).isEmpty then return x else .error .malformed

end ScriptLink.Json

namespace ScriptLink.Value

/-- The value that a text is. -/
def readChars (cs : List Char) : Except Json.ReadError Value :=
  Json.whole (Json.value Json.maxDepth) cs

/-- The value that a text is, or what is wrong with it. -/
def read (s : String) : Except Json.ReadError Value := readChars s.toList

/-- The value that a text is, if it is JSON. -/
def ofText? (s : String) : Option Value :=
  match read s with
  | .ok v => some v
  | .error _ => none

end ScriptLink.Value
