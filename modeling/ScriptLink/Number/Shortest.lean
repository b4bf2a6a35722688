import ScriptLink.Number.Binary64

/-!
# ScriptLink.Number.Shortest — the shortest decimal that reads back

Around every binary64 number lies the interval of reals that round to it; its ends belong to it
exactly when the mantissa is even. The shortest decimal is a point of the coarsest grid of powers
of ten that meets the interval, and of two such points the nearer.

* `onGrid? x k` is that point of the grid `10^k`, as a multiple of `10^k`.
* `shortest x` is the multiple and the power for the coarsest such grid.
-/

namespace ScriptLink.Binary64

/-- A decimal `coefficient · 10^power`. -/
structure Decimal where
  coefficient : Nat
  /-- The power of ten of the last digit. -/
  power : Int
  deriving DecidableEq, Repr, Inhabited

/-- The three numbers `c · 10^k`, `m · 2^e` over one common denominator, as numerators for a
coefficient `c`: the factor for `c`, and the factor for a mantissa in quarters. -/
def commonFactors (k e : Int) : Nat × Nat :=
  let (p, q) := if 0 ≤ k then (Nat.pow 10 k.toNat, 1) else (1, Nat.pow 10 (-k).toNat)
  let (s, t) := if 0 ≤ e then (Nat.pow 2 e.toNat, 1) else (1, Nat.pow 2 (-e).toNat)
  (4 * p * t, s * q)

/-- The point of the grid `10^k` that reads back as `x` and is nearest to it, if there is one; a
tie goes to the even multiple. -/
def onGrid? (x : Binary64) (k : Int) : Option Nat :=
  let (unit, quarter) := commonFactors k x.exponent
  let value := 4 * x.mantissa * quarter
  let above := value + 2 * quarter
  let below := value -
    (if x.mantissa = hidden ∧ x.exponent ≠ minExponent then quarter else 2 * quarter)
  let inside (c : Nat) : Bool :=
    0 < c && (if x.mantissa % 2 = 0 then below ≤ c * unit && c * unit ≤ above
      else below < c * unit && c * unit < above)
  let low := value / unit
  let high := low + 1
  match inside low, inside high with
  | false, false => none
  | true, false => some low
  | false, true => some high
  | true, true =>
    let fromLow := value - low * unit
    let toHigh := high * unit - value
    if fromLow < toHigh then some low
    else if toHigh < fromLow then some high
    else some (low + low % 2)

/-- The first grid from `10^k` downward that meets the interval of `x`, among the next `fuel`. -/
def search (x : Binary64) : Nat → Int → Decimal
  | 0, k => ⟨0, k⟩
  | fuel + 1, k =>
    match onGrid? x k with
    | some c => ⟨c, k⟩
    | none => search x fuel (k - 1)

/-- The shortest decimal that reads back as the number without its sign. The search starts above
the number and ends within its first seventeen digits. -/
def shortest (x : Binary64) : Decimal :=
  let top := ((x.mantissa.log2 : Int) + x.exponent + 1) * 30103 / 100000 + 2
  search x 24 top

end ScriptLink.Binary64
