import ScriptLink.Json.Reader
import ScriptLink.Proofs.Number.Literal
import ScriptLink.Proofs.Number.Rounding

/-!
# ScriptLink.Proofs.Json.Grammar — what JSON text is, and what it means

The productions say how a text is put together and which value it has, without a word about how it is read.

* `Numeral`: numbers. One without fraction and exponent is an integer where it fits 64 bits; any other is the
  nearest number of the format binary64, and no number if it is beyond the range of that (`Literal.Denotes`).
* `Unquoted`: strings, character by character (`Spelled`).
* `Separated`, `Closed`, `Member` and `Written`: arrays, objects and values, which nest only so deep.
* `Document cs v`: the characters are a whole text of the value `v`.
-/

namespace ScriptLink

open ScriptLink.Json (digitsValue)

namespace Number.Literal

/-! ## Numbers -/

/-- The integer that the digits before the point spell. -/
def integer (l : Literal) : Int :=
  if l.negative then -(digitsValue l.whole : Int) else digitsValue l.whole

/-- There is neither fraction nor exponent, and the integer fits into 64 bits; minus zero is none. -/
def Integral (l : Literal) : Prop :=
  l.frac = [] ∧ l.exponent = none ∧ Fits l.integer ∧ ¬(l.negative = true ∧ l.integer = 0)

instance (l : Literal) : Decidable l.Integral := inferInstanceAs (Decidable (_ ∧ _ ∧ _ ∧ _))

/-- What the digits and the exponent amount to. -/
def magnitude (l : Literal) : ℚ :=
  digitsValue (l.whole ++ l.frac) * 10 ^ (l.exponent.getD 0 - l.frac.length)

/-- A literal stands for an integer of 64 bits if it is written as one, and for the nearest number of the
format binary64 otherwise. One that is beyond the range of the format stands for nothing. -/
inductive Denotes (l : Literal) : Number → Prop
  | integer : l.Integral → Denotes l (.int l.integer)
  | real {x : Binary64} : ¬l.Integral → x.Canonical → x.negative = l.negative → x.Rounds l.magnitude →
      Denotes l (.real x)

end Number.Literal

namespace Json

open ScriptLink.Number (Literal)

def Digits (ds : List Char) : Prop := ds ≠ [] ∧ ∀ c ∈ ds, c.isDigit = true

/-- The text of a fraction and its digits. -/
inductive Fraction : List Char → List Char → Prop
  | none : Fraction [] []
  | point {ds : List Char} : Digits ds → Fraction ('.' :: ds) ds

/-- The text of an exponent and the exponent. -/
inductive Exponent : List Char → Option Int → Prop
  | none : Exponent [] none
  | bare {e : Char} {ds : List Char} : e = 'e' ∨ e = 'E' → Digits ds →
      Exponent (e :: ds) (some (digitsValue ds))
  | plus {e : Char} {ds : List Char} : e = 'e' ∨ e = 'E' → Digits ds →
      Exponent (e :: '+' :: ds) (some (digitsValue ds))
  | minus {e : Char} {ds : List Char} : e = 'e' ∨ e = 'E' → Digits ds →
      Exponent (e :: '-' :: ds) (some (-(digitsValue ds : Int)))

/-- A number: a sign, digits that do not begin with a needless zero, a fraction and an exponent. -/
inductive Numeral : List Char → Number → Prop
  | parts {l : Literal} {point power : List Char} {n : Number} : Digits l.whole →
      Literal.padded l.whole = false → Fraction point l.frac → Exponent power l.exponent → l.Denotes n →
      Numeral (l.signChars ++ (l.whole ++ (point ++ power))) n

/-! ## Strings -/

/-- A hexadecimal digit, in either case. -/
def HexDigit (c : Char) (n : Nat) : Prop :=
  n < 16 ∧ (c = Nat.digitChar n ∨ c = (Nat.digitChar n).toUpper)

instance (c : Char) (n : Nat) : Decidable (HexDigit c n) := inferInstanceAs (Decidable (_ ∧ _))

/-- Four hexadecimal digits. -/
inductive HexWord : List Char → Nat → Prop
  | digits {a b c d : Char} {i j k l : Nat} : HexDigit a i → HexDigit b j → HexDigit c k → HexDigit d l →
      HexWord [a, b, c, d] (((i * 16 + j) * 16 + k) * 16 + l)

/-- The letters that stand after a backslash for one character each. -/
def shortEscapes : List (Char × Char) :=
  [('"', '"'), ('\\', '\\'), ('/', '/'), ('b', '\x08'), ('f', '\x0c'), ('n', '\n'), ('r', '\r'), ('t', '\t')]

/-- How one character of a string is written. A half of a surrogate pair is only written beside the other. -/
inductive Spelled : List Char → Char → Prop
  | plain {c : Char} : 0x20 ≤ c.toNat → c ≠ '"' → c ≠ '\\' → Spelled [c] c
  | short {c e : Char} : (c, e) ∈ shortEscapes → Spelled ['\\', c] e
  | word {ds : List Char} {n : Nat} : HexWord ds n → n < 0xD800 ∨ 0xE000 ≤ n →
      Spelled ('\\' :: 'u' :: ds) (Char.ofNat n)
  | pair {ds es : List Char} {m n : Nat} : HexWord ds m → 0xD800 ≤ m → m < 0xDC00 →
      HexWord es n → 0xDC00 ≤ n → n < 0xE000 →
      Spelled ('\\' :: 'u' :: (ds ++ '\\' :: 'u' :: es))
        (Char.ofNat (0x10000 + (m - 0xD800) * 0x400 + (n - 0xDC00)))

/-- The characters between quotation marks, and the text that they stand for. -/
inductive Chars : List Char → List Char → Prop
  | nil : Chars [] []
  | cons {front rest s : List Char} {c : Char} : Spelled front c → Chars rest s →
      Chars (front ++ rest) (c :: s)

/-- The text of a string after its opening quotation mark. -/
inductive Unquoted : List Char → String → Prop
  | chars {inner s : List Char} : Chars inner s → Unquoted (inner ++ ['"']) (String.ofList s)

/-! ## Arrays and objects -/

/-- Nothing but white space. -/
def Spaces (cs : List Char) : Prop := ∀ c ∈ cs, isSpace c = true

section

variable {α : Type} (G : List Char → α → Prop)

/-- White space may stand before. -/
inductive Led : List Char → α → Prop
  | space {space inner : List Char} {a : α} : Spaces space → G inner a → Led (space ++ inner) a

/-- White space may stand before and after. -/
inductive Spaced : List Char → α → Prop
  | space {inner space : List Char} {a : α} : Led G inner a → Spaces space → Spaced (inner ++ space) a

/-- One or several, with commas between them. -/
inductive Separated : List Char → List α → Prop
  | last {cs : List Char} {a : α} : Spaced G cs a → Separated cs [a]
  | comma {cs rest : List Char} {a : α} {as : List α} : Spaced G cs a → Separated rest as →
      Separated (cs ++ ',' :: rest) (a :: as)

/-- A list after its opening bracket. -/
inductive Closed (closing : Char) : List Char → List α → Prop
  | none {space : List Char} : Spaces space → Closed closing (space ++ [closing]) []
  | some {inside : List Char} {as : List α} : Separated G inside as → Closed closing (inside ++ [closing]) as

end

/-- A key, a colon and a value. -/
inductive Member (G : List Char → Value → Prop) : List Char → String × Value → Prop
  | colon {key value before after : List Char} {name : String} {v : Value} : Unquoted key name →
      Spaces before → Spaces after → G value v →
      Member G ('"' :: (key ++ (before ++ ':' :: (after ++ value)))) (name, v)

/-! ## Values -/

/-- The texts of values that are no array and no object. -/
inductive Scalar : List Char → Value → Prop
  | null : Scalar ['n', 'u', 'l', 'l'] .null
  | true : Scalar ['t', 'r', 'u', 'e'] (.bool true)
  | false : Scalar ['f', 'a', 'l', 's', 'e'] (.bool false)
  | string {cs : List Char} {s : String} : Unquoted cs s → Scalar ('"' :: cs) (.str s)
  | number {cs : List Char} {n : Number} : Numeral cs n → Scalar cs (.num n)

/-- The object has its keys in order, and for each the value of the last member with that key. -/
def Collects (ms : List (String × Value)) (v : Value) : Prop :=
  ∃ members, v = .obj members ∧ members.Pairwise (fun a b => a.1 < b.1) ∧
    ∀ key, members.lookup key = ms.reverse.lookup key

/-- The text of a value without white space around it, in which arrays and objects nest at most so deep. -/
def Written : Nat → List Char → Value → Prop
  | 0, cs, v => Scalar cs v
  | depth + 1, cs, v => Scalar cs v ∨
      (∃ inside vs, Closed (Written depth) ']' inside vs ∧ cs = '[' :: inside ∧ v = .arr vs) ∨
      ∃ inside ms, Closed (Member (Written depth)) '\x7d' inside ms ∧ cs = '\x7b' :: inside ∧
        Collects ms v

/-- The text of a value with white space around it, in which arrays and objects nest at most 127 deep. -/
def Document (cs : List Char) (v : Value) : Prop := Spaced (Written 127) cs v

end Json

end ScriptLink
