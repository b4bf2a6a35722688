import ScriptLink.Json.Value
import ScriptLink.Number.Shortest

/-!
# ScriptLink.Json.Printer — JSON text of a value

The compact form: no white space, members in the order in which the object holds them.

* Strings escape the quotation mark, the backslash and the characters below U+0020; all others stand
  for themselves.
* A floating-point number has its shortest digits: positional, with at least one digit after the
  point, while the exponent of the leading digit is between `-5` and `15`, and with an exponent and
  its sign otherwise.
-/

namespace ScriptLink

namespace Number

def digits (n : Nat) : List Char := Nat.toDigits 10 n

/-- The decimal digits of an integer, with a minus if it is negative. -/
def integerChars (i : Int) : List Char :=
  if i < 0 then '-' :: digits i.natAbs else digits i.natAbs

/-- Where positional notation ends: the exponents of the leading digit that are written without an
exponent. -/
def positional (e : Int) : Bool := -5 ≤ e && e ≤ 15

def decimalChars (d : Binary64.Decimal) : List Char :=
  let ds := digits d.coefficient
  let e := d.power + ds.length - 1
  if positional e then
    if 0 ≤ d.power then ds ++ List.replicate d.power.toNat '0' ++ ['.', '0']
    else if 0 ≤ e then ds.take (e.toNat + 1) ++ '.' :: ds.drop (e.toNat + 1)
    else '0' :: '.' :: (List.replicate (-e - 1).toNat '0' ++ ds)
  else
    let significand := match ds with
      | lead :: next :: rest => lead :: '.' :: next :: rest
      | short => short
    significand ++ 'e' :: (if e < 0 then '-' else '+') :: digits e.natAbs

/-- The shortest decimal that reads back as the number. -/
def realChars (x : Binary64) : List Char :=
  let magnitude := if x.mantissa = 0 then ['0', '.', '0'] else decimalChars x.shortest
  if x.negative then '-' :: magnitude else magnitude

def chars : Number → List Char
  | .int i => integerChars i
  | .real x => realChars x

end Number

namespace Value

/-! ## Strings -/

def hexDigit (n : Nat) : Char := Nat.digitChar n

/-- A character inside a quoted string. -/
def escape (c : Char) : List Char :=
  if c = '"' then ['\\', '"']
  else if c = '\\' then ['\\', '\\']
  else if 0x20 ≤ c.toNat then [c]
  else if c = '\x08' then ['\\', 'b']
  else if c = '\t' then ['\\', 't']
  else if c = '\n' then ['\\', 'n']
  else if c = '\x0c' then ['\\', 'f']
  else if c = '\r' then ['\\', 'r']
  else ['\\', 'u', '0', '0', hexDigit (c.toNat / 16), hexDigit (c.toNat % 16)]

/-- A string between quotation marks, with its escapes. -/
def quoted (s : String) : List Char :=
  '"' :: (s.toList.flatMap escape ++ ['"'])

/-! ## Values -/

mutual

def chars : Value → List Char
  | .null => ['n', 'u', 'l', 'l']
  | .bool true => ['t', 'r', 'u', 'e']
  | .bool false => ['f', 'a', 'l', 's', 'e']
  | .num n => n.chars
  | .str s => quoted s
  | .arr [] => ['[', ']']
  | .arr (v :: rest) => '[' :: (chars v ++ itemChars rest)
  | .obj [] => ['\x7b', '\x7d']
  | .obj ((k, v) :: rest) => '\x7b' :: (quoted k ++ ':' :: (chars v ++ memberChars rest))

/-- The items after the first and the closing bracket. -/
def itemChars : List Value → List Char
  | [] => [']']
  | v :: rest => ',' :: (chars v ++ itemChars rest)

def memberChars : List (String × Value) → List Char
  | [] => ['\x7d']
  | (k, v) :: rest => ',' :: (quoted k ++ ':' :: (chars v ++ memberChars rest))

end

/-- The JSON text of a value, without white space. -/
def text (v : Value) : String := String.ofList v.chars

/-- The text of a free-form field in running text: a string stands for itself, any other value for
its JSON text. -/
def plain : Value → String
  | .str s => s
  | v => v.text

/-- The text of an optional free-form field; `fallback` stands for an absent field and for `null`. -/
def plainOr (fallback : String) : Option Value → String
  | none => fallback
  | some .null => fallback
  | some v => v.plain

@[simp] theorem plain_str (s : String) : plain (.str s) = s := rfl

end Value

end ScriptLink
