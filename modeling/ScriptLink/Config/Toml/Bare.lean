import ScriptLink.Config.Token
import ScriptLink.Config.Toml.Moment
import ScriptLink.Json.Value

/-!
# ScriptLink.Config.Toml.Bare — values without quotation marks

`bare?` reads a truth value, a number, a date or a time from the text of a value. An integer must fit into
64 bits. What is not a number and the infinities give `null`, but only where they are named: a decimal
that is too large in size for a finite number is refused.
-/

namespace ScriptLink.Config.Toml

open Token

/-! ## Digits -/

/-- Digits with single underscores between them, without these. -/
def grouped? (isDigit : Char → Bool) (cs : List Char) : Option (List Char) :=
  let groups := cs.splitOn '_'
  if groups.all fun g => !g.isEmpty && g.all isDigit then some groups.flatten else none

/-- A digit of the base, in capital or small letters. -/
def isDigitOf (base : Nat) (c : Char) : Bool :=
  match Json.hexValue? c with
  | some n => decide (n < base)
  | none => false

/-- Digits of the base, without the underscores between them. -/
def digits? (base : Nat) (cs : List Char) : Option (List Char) := grouped? (isDigitOf base) cs

/-- Decimal digits that do not begin with a needless zero. -/
def decimal? (cs : List Char) : Option (List Char) :=
  match cs with
  | '0' :: _ :: _ => none
  | cs => digits? 10 cs

/-- The number that digits of the base are. -/
def valueOf (base : Nat) (ds : List Char) : Nat :=
  ds.foldl (fun n c => n * base + (Json.hexValue? c).getD 0) 0

/-- Whether there is a minus in front, and the rest after the sign. -/
def sign (cs : List Char) : Bool × List Char :=
  match cs with
  | '-' :: rest => (true, rest)
  | '+' :: rest => (false, rest)
  | cs => (false, cs)

def signed (negative : Bool) (n : Nat) : Int := if negative then -(n : Int) else n

/-! ## Numbers -/

/-- An integer of 64 bits as a value. -/
def fitting? (i : Int) : Option Value :=
  if -0x8000000000000000 ≤ i ∧ i < 0x8000000000000000 then some (.num (.int i)) else none

/-- A decimal integer with a sign or without, or one of another base after its mark. -/
def integer? (cs : List Char) : Option Value :=
  let based (base : Nat) (rest : List Char) : Option Value :=
    (digits? base rest).bind fun ds => fitting? (valueOf base ds)
  match cs with
  | '0' :: 'x' :: rest => based 16 rest
  | '0' :: 'o' :: rest => based 8 rest
  | '0' :: 'b' :: rest => based 2 rest
  | cs =>
    let (negative, rest) := sign cs
    (decimal? rest).bind fun ds => fitting? (signed negative (valueOf 10 ds))

/-- The digits after a mark that `isMark` tells, with what `read` makes of them; none without it. -/
def part? (isMark : Char → Bool) (read : List Char → Option α) (cs : List Char) :
    Option (List Char × Option α) :=
  match cs.dropWhile (!isMark ·) with
  | [] => some (cs, none)
  | _ :: rest => (read rest).map fun x => (cs.takeWhile (!isMark ·), some x)

/-- A number with a point or an exponent. -/
def real? (cs : List Char) : Option Value :=
  let (negative, cs) := sign cs
  if cs = ['i', 'n', 'f'] ∨ cs = ['n', 'a', 'n'] then some .null
  else do
    let exponent (cs : List Char) : Option Int :=
      let (negative, rest) := sign cs
      (digits? 10 rest).map fun ds => signed negative (valueOf 10 ds)
    let (mantissa, e) ← part? (fun c => c == 'e' || c == 'E') exponent cs
    let (whole, fraction) ← part? (· == '.') (digits? 10) mantissa
    let whole ← decimal? whole
    if e.isNone ∧ fraction.isNone then none
    else
      let fraction := fraction.getD []
      (Binary64.ofDecimal? negative (valueOf 10 (whole ++ fraction))
        (e.getD 0 - fraction.length)).map fun x => .num (.real x)

/-! ## Bare values -/

/-- The key of the text of a date or a time. -/
def momentKey : String := "moment"

/-- A date or a time, which is an object with its text. -/
def moment (cs : List Char) : Value := .obj [(momentKey, .str (String.ofList cs))]

/-- The value that a bare text is. -/
def bare? (cs : List Char) : Option Value :=
  if cs = ['t', 'r', 'u', 'e'] then some (.bool true)
  else if cs = ['f', 'a', 'l', 's', 'e'] then some (.bool false)
  else if isMoment cs then some (moment cs)
  else (real? cs).or (integer? cs)

/-- A character of a bare text. -/
def isBareChar (c : Char) : Bool := isKeyChar c || c == '+' || c == '.' || c == ':'

/-- A bare value and the rest; a date and a time may have one space between them. -/
def bareText (cs : List Char) : Taken (List Char) :=
  let first := cs.takeWhile isBareChar
  match cs.dropWhile isBareChar with
  | ' ' :: rest =>
    let time := rest.takeWhile isBareChar
    if isDate first && isMoment (first ++ ' ' :: time) then
      (first ++ ' ' :: time, rest.dropWhile isBareChar)
    else (first, ' ' :: rest)
  | rest => (first, rest)

end ScriptLink.Config.Toml
