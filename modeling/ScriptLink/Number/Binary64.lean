/-!
# ScriptLink.Number.Binary64 — finite floating-point numbers, exactly

A number `(-1)^s · m · 2^e` of the format binary64 is kept as its three parts, and every operation
is exact arithmetic on them followed by one rounding. So a decimal is read as the number nearest to it, also where a
faster reader that rounds in between would be off by the last bit: see `ScriptLink.Json.Reader`.

* `ofRatio?` rounds a quotient to the nearest number, a tie to the even mantissa, and gives nothing
  where the result would be infinite.
* `ofDecimal?`, `ofInt?`, `add?` and `sum?` are that rounding after a decimal, an integer, an exact
  sum, and a running sum.
* `Canonical` says which triples are numbers of the format.
-/

namespace ScriptLink

/-- A finite number `(-1)^negative · mantissa · 2^exponent`. -/
structure Binary64 where
  /-- The sign bit; zero has one too. -/
  negative : Bool
  /-- The mantissa, below `2^53`. -/
  mantissa : Nat
  /-- The exponent, between `-1074` and `971`. -/
  exponent : Int
  deriving DecidableEq, Repr, Inhabited

namespace Binary64

/-- The least exponent; a number with it may have fewer than 53 bits. -/
def minExponent : Int := -1074

/-- The greatest exponent of a finite number. -/
def maxExponent : Int := 971

/-- The mantissa of a single bit, the highest of 53. -/
def hidden : Nat := 0x10000000000000

/-- The triples that are numbers of the format, each number once. -/
def Canonical (x : Binary64) : Prop :=
  x.mantissa < 2 * hidden ∧ minExponent ≤ x.exponent ∧ x.exponent ≤ maxExponent ∧
    (x.exponent ≠ minExponent → hidden ≤ x.mantissa)

def zero (negative : Bool) : Binary64 := ⟨negative, 0, minExponent⟩

/-! ## Rounding -/

/-- The quotient `n / d` rounded to the nearest integer, a tie to the even one. -/
def roundDiv (n d : Nat) : Nat :=
  let q := n / d
  let r := 2 * (n % d)
  if r < d then q else if d < r then q + 1 else q + q % 2

/-- Numerator and denominator of `n / d · 2^(-e)`. -/
def unscale (n d : Nat) (e : Int) : Nat × Nat :=
  if 0 ≤ e then (n, d * Nat.pow 2 e.toNat) else (n * Nat.pow 2 (-e).toNat, d)

/-- The exponent at which `n / d` has at most 53 bits before the point, and the least such unless
the format has none smaller. -/
def exponentOf (n d : Nat) : Int :=
  let low := max ((n.log2 : Int) - d.log2 - 53) minExponent
  let (a, b) := unscale n d low
  if a / b < 2 * hidden then low else low + 1

/-- The number nearest to `±n/d`, unless it is infinite. -/
def ofRatio? (negative : Bool) (n d : Nat) : Option Binary64 :=
  if n = 0 then some (zero negative) else
    let e := exponentOf n d
    let (a, b) := unscale n d e
    let m := roundDiv a b
    let x : Binary64 := if m = 2 * hidden then ⟨negative, hidden, e + 1⟩ else ⟨negative, m, e⟩
    if x.exponent ≤ maxExponent then some x else none

/-- The number nearest to `±m · 10^e`, unless it is infinite. Beyond four hundred decimal places
on either side of the point the answer is plain and no power is computed. -/
def ofDecimal? (negative : Bool) (m : Nat) (e : Int) : Option Binary64 :=
  if m = 0 then some (zero negative)
  else if 400 < e then none
  else if e + (m.log2 : Int) + 1 < -400 then
    some (zero negative)
  else if 0 ≤ e then ofRatio? negative (m * Nat.pow 10 e.toNat) 1
  else ofRatio? negative m (Nat.pow 10 (-e).toNat)

/-- The number nearest to an integer, unless that is too large. -/
def ofInt? (i : Int) : Option Binary64 :=
  ofRatio? (decide (i < 0)) i.natAbs 1

/-! ## Addition -/

/-- The mantissa with its sign. -/
def signed (x : Binary64) : Int :=
  if x.negative then -(x.mantissa : Int) else x.mantissa

/-- The sum, unless it is infinite; a sum of zero is negative only when both terms are. -/
def add? (x y : Binary64) : Option Binary64 :=
  let e := min x.exponent y.exponent
  let scaled (z : Binary64) : Int := z.signed * (Nat.pow 2 (z.exponent - e).toNat : Int)
  let total := scaled x + scaled y
  if total = 0 then some (zero (x.negative && y.negative))
  else if 0 ≤ e then ofRatio? (decide (total < 0)) (total.natAbs * Nat.pow 2 e.toNat) 1
  else ofRatio? (decide (total < 0)) total.natAbs (Nat.pow 2 (-e).toNat)

/-- The running sum from the left, from negative zero, which is the neutral element. Once it is
infinite it stays so, since every term is finite. -/
def sum? (xs : List Binary64) : Option Binary64 :=
  xs.foldlM add? (zero true)

end Binary64

end ScriptLink
