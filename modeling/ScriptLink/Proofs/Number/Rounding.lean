import Mathlib.Algebra.Order.Field.Power
import Mathlib.Data.Rat.Cast.Order
import Mathlib.Tactic.FieldSimp
import Mathlib.Tactic.Linarith
import Mathlib.Tactic.Positivity
import Mathlib.Tactic.Ring
import ScriptLink.Number.Shortest

/-!
# ScriptLink.Proofs.Number.Rounding — what rounding gives

* `Rounds x v`: the rational `v` is in the interval of those that round to the number `x`; its ends
  belong to it if the mantissa is even.
* `exponentOf_holds` and `Holds.unique`: a positive rational has exactly one exponent at which the
  format holds it.
* `ofRatio?_eq_some_iff`: a quotient is rounded to the number of the format in whose interval it is, and
  to none if it is in no interval; `ofDecimal?_eq_some_iff` is the same for a decimal. A sum is a number
  of the format too (`canonical_of_sum?`).
-/

namespace ScriptLink.Binary64

/-! ## Quotients -/

/-- No integer is nearer to `a / b` than `m`, and if another is as near, then `m` is the even one. -/
structure Nearest (a b m : Nat) : Prop where
  lower : 2 * (m * b) ≤ 2 * a + b
  upper : 2 * a ≤ 2 * (m * b) + b
  strict : m % 2 = 1 → 2 * (m * b) < 2 * a + b ∧ 2 * a < 2 * (m * b) + b

theorem Nearest.le {a b m n : Nat} (hb : 0 < b) (h : Nearest a b m) (k : Nearest a b n) : m ≤ n := by
  obtain ⟨hlow, -, hodd⟩ := h
  obtain ⟨-, khigh, kodd⟩ := k
  by_contra hlt
  have hstep := Nat.mul_le_mul_right b (show n + 1 ≤ m by omega)
  rw [Nat.add_mul, Nat.one_mul] at hstep
  -- both are half away from the quotient, so they are neighbours, and one of them is odd
  have heq : m * b = (n + 1) * b := by
    rw [Nat.add_mul, Nat.one_mul]
    omega
  obtain rfl := Nat.eq_of_mul_eq_mul_right hb heq
  rcases Nat.mod_two_eq_zero_or_one n with hn | hn
  · have := hodd (by omega)
    omega
  · have := kodd hn
    omega

/-- A rounded quotient is the quotient or one more. -/
theorem roundDiv_bounds (a b : Nat) : a / b ≤ roundDiv a b ∧ roundDiv a b ≤ a / b + 1 := by
  unfold roundDiv
  dsimp only
  split
  · omega
  · split <;> omega

/-- A rounded quotient is nearest to the quotient. -/
theorem nearest_roundDiv (a : Nat) {b : Nat} (hb : 0 < b) : Nearest a b (roundDiv a b) := by
  have hdiv : a / b * b + a % b = a := by rw [Nat.mul_comm]; exact Nat.div_add_mod a b
  have hmod : a % b < b := Nat.mod_lt a hb
  unfold roundDiv
  dsimp only
  generalize a / b = q at hdiv ⊢
  generalize a % b = r at hdiv hmod ⊢
  have hnext : (q + 1) * b = q * b + b := Nat.succ_mul q b
  rcases lt_trichotomy (2 * r) b with hr | hr | hr
  · rw [if_pos hr]
    constructor <;> omega
  · -- a tie goes to the even neighbour
    rw [if_neg (by omega), if_neg (by omega)]
    rcases Nat.mod_two_eq_zero_or_one q with hq | hq
    · rw [hq, Nat.add_zero]
      constructor <;> omega
    · rw [hq]
      constructor <;> omega
  · rw [if_neg (by omega), if_pos hr]
    constructor <;> omega

theorem roundDiv_eq_iff {a b m : Nat} (hb : 0 < b) : roundDiv a b = m ↔ Nearest a b m := by
  have hnear := nearest_roundDiv a hb
  refine ⟨fun h => h ▸ hnear, fun h => ?_⟩
  exact Nat.le_antisymm (hnear.le hb h) (h.le hb hnear)

theorem unscale_pos {n d : Nat} (hn : 0 < n) (hd : 0 < d) (e : Int) :
    0 < (unscale n d e).1 ∧ 0 < (unscale n d e).2 := by
  unfold unscale
  split
  · exact ⟨hn, Nat.mul_pos hd (Nat.pow_pos (by decide))⟩
  · exact ⟨Nat.mul_pos hn (Nat.pow_pos (by decide)), hd⟩

/-- Numerator and denominator are those of the quotient divided by `2^e`. -/
theorem unscale_div (n d : Nat) (e : Int) :
    ((unscale n d e).1 : ℚ) / (unscale n d e).2 = n / d / 2 ^ e := by
  have hp (k : Nat) : ((Nat.pow 2 k : Nat) : ℚ) = 2 ^ k := Nat.cast_pow 2 k
  unfold unscale
  split
  · rename_i he
    obtain ⟨k, rfl⟩ := Int.eq_ofNat_of_zero_le he
    rw [Int.toNat_natCast, Nat.cast_mul, hp, zpow_natCast, div_div]
  · rename_i he
    obtain ⟨k, rfl⟩ : ∃ k : Nat, e = -k := ⟨(-e).toNat, by omega⟩
    rw [neg_neg, Int.toNat_natCast, Nat.cast_mul, hp, zpow_neg, zpow_natCast, div_inv_eq_mul,
      mul_div_right_comm]

/-! ## Exponents -/

/-- The format holds the rational `v` at the exponent `e`: it has at most 53 bits before the point
there, and just as many unless the format has no smaller exponent. -/
structure Holds (v : ℚ) (e : Int) : Prop where
  least : minExponent ≤ e
  upper : v < 2 * hidden * 2 ^ e
  lower : e ≠ minExponent → hidden * 2 ^ e ≤ v

theorem two_zpow_succ (e : Int) : (2 : ℚ) ^ (e + 1) = 2 * 2 ^ e := by
  rw [zpow_add_one₀ (by norm_num), mul_comm]

theorem two_zpow_le {i j : Int} (h : i ≤ j) : (2 : ℚ) ^ i ≤ 2 ^ j :=
  zpow_le_zpow_right₀ (by norm_num) h

theorem two_zpow_pos (e : Int) : (0 : ℚ) < 2 ^ e := by positivity

theorem hidden_mul (e : Int) : (hidden : ℚ) * 2 ^ e = 2 ^ (e + 52) := by
  have h : (hidden : ℚ) = 2 ^ (52 : Int) := by norm_num [hidden]
  rw [h, ← zpow_add₀ (by norm_num), add_comm]

theorem two_hidden_mul (e : Int) : 2 * (hidden : ℚ) * 2 ^ e = 2 ^ (e + 53) := by
  rw [mul_assoc, hidden_mul, ← two_zpow_succ, add_assoc]
  rfl

theorem Holds.le {v : ℚ} {e f : Int} (h : Holds v e) (k : Holds v f) : e ≤ f := by
  by_contra hlt
  have hne : e ≠ minExponent := by
    have := k.least
    omega
  have hpow : (2 : ℚ) ^ (f + 1) ≤ 2 ^ e := two_zpow_le (by omega)
  rw [two_zpow_succ] at hpow
  have hpos : (0 : ℚ) < hidden := by norm_num [hidden]
  nlinarith [h.lower hne, k.upper]

/-- There is only one such exponent. -/
theorem Holds.unique {v : ℚ} {e f : Int} (h : Holds v e) (k : Holds v f) : e = f :=
  le_antisymm (h.le k) (k.le h)

theorem div_lt_iff_lt {a b m : Nat} (hb : 0 < b) : a / b < m ↔ (a : ℚ) / b < m := by
  have hb' : (0 : ℚ) < b := by exact_mod_cast hb
  rw [Nat.div_lt_iff_lt_mul hb, div_lt_iff₀ hb']
  exact_mod_cast Iff.rfl

theorem log2_bounds {n : Nat} (h : 0 < n) :
    (2 : ℚ) ^ (n.log2 : Int) ≤ n ∧ (n : ℚ) < 2 ^ ((n.log2 : Int) + 1) := by
  have hlow : 2 ^ n.log2 ≤ n := Nat.log2_self_le (by omega)
  have hhigh : n < 2 ^ (n.log2 + 1) := Nat.lt_log2_self
  refine ⟨?_, ?_⟩
  · rw [zpow_natCast]
    exact_mod_cast hlow
  · rw [show (n.log2 : Int) + 1 = ((n.log2 + 1 : Nat) : Int) by push_cast; rfl, zpow_natCast]
    exact_mod_cast hhigh

/-- The lengths of numerator and denominator give the size of the quotient but for one bit. -/
theorem div_log2_bounds {n d : Nat} (hn : 0 < n) (hd : 0 < d) :
    (2 : ℚ) ^ ((n.log2 : Int) - d.log2 - 1) < n / d ∧
      (n : ℚ) / d < 2 ^ ((n.log2 : Int) - d.log2 + 1) := by
  obtain ⟨hn1, hn2⟩ := log2_bounds hn
  obtain ⟨hd1, hd2⟩ := log2_bounds hd
  have hd' : (0 : ℚ) < d := by exact_mod_cast hd
  refine ⟨?_, ?_⟩
  · rw [lt_div_iff₀ hd']
    calc (2 : ℚ) ^ ((n.log2 : Int) - d.log2 - 1) * d
        < 2 ^ ((n.log2 : Int) - d.log2 - 1) * 2 ^ ((d.log2 : Int) + 1) := by
          exact mul_lt_mul_of_pos_left hd2 (two_zpow_pos _)
      _ = 2 ^ (n.log2 : Int) := by
          rw [← zpow_add₀ (by norm_num)]
          congr 1
          omega
      _ ≤ n := hn1
  · rw [div_lt_iff₀ hd']
    calc (n : ℚ) < 2 ^ ((n.log2 : Int) + 1) := hn2
      _ = 2 ^ ((n.log2 : Int) - d.log2 + 1) * 2 ^ (d.log2 : Int) := by
          rw [← zpow_add₀ (by norm_num)]
          congr 1
          omega
      _ ≤ 2 ^ ((n.log2 : Int) - d.log2 + 1) * d := by
          exact mul_le_mul_of_nonneg_left hd1 (two_zpow_pos _).le

/-- The format holds a quotient at the exponent that is computed for it. -/
theorem exponentOf_holds {n d : Nat} (hn : 0 < n) (hd : 0 < d) :
    Holds (n / d) (exponentOf n d) := by
  obtain ⟨hlow, hhigh⟩ := div_log2_bounds hn hd
  have hb := (unscale_pos hn hd (max ((n.log2 : Int) - d.log2 - 53) minExponent)).2
  have htest := div_lt_iff_lt (a := (unscale n d (max ((n.log2 : Int) - d.log2 - 53) minExponent)).1)
    (m := 2 * hidden) hb
  rw [unscale_div, div_lt_iff₀ (two_zpow_pos _)] at htest
  have hcast : ((2 * hidden : Nat) : ℚ) = 2 * hidden := by push_cast; rfl
  rw [hcast] at htest
  unfold exponentOf
  dsimp only
  generalize (n.log2 : Int) - d.log2 = L at *
  rcases lt_or_ge (L - 53) minExponent with hle | hle
  · -- the quotient has fewer bits than the format at its least exponent
    rw [max_eq_right hle.le] at hb htest ⊢
    have hv : (n : ℚ) / d < 2 * hidden * 2 ^ minExponent := by
      rw [two_hidden_mul]
      exact hhigh.trans_le (two_zpow_le (by omega))
    rw [if_pos (htest.mpr hv)]
    exact ⟨le_refl _, hv, fun h => absurd rfl h⟩
  · rw [max_eq_left hle] at hb htest ⊢
    by_cases hv : (n : ℚ) / d < 2 * hidden * 2 ^ (L - 53)
    · rw [if_pos (htest.mpr hv)]
      refine ⟨hle, hv, fun _ => ?_⟩
      rw [hidden_mul, show L - 53 + 52 = L - 1 by ring]
      exact hlow.le
    · rw [if_neg fun h => hv (htest.mp h)]
      refine ⟨by omega, ?_, fun _ => ?_⟩
      · rw [two_hidden_mul, show L - 53 + 1 + 53 = L + 1 by ring]
        exact hhigh
      · rw [two_zpow_succ, mul_left_comm, ← mul_assoc]
        exact not_lt.mp hv

/-! ## Numbers -/

/-- The rational `v` is in the interval of those that round to `x`. Where the numbers below `x` lie
twice as close, the interval reaches only half as far down. -/
structure Rounds (x : Binary64) (v : ℚ) : Prop where
  lower : (x.mantissa - if x.mantissa = hidden ∧ x.exponent ≠ minExponent then 1 / 4 else 1 / 2 : ℚ) *
    2 ^ x.exponent ≤ v
  upper : v ≤ (x.mantissa + 1 / 2 : ℚ) * 2 ^ x.exponent
  strict : x.mantissa % 2 = 1 → (x.mantissa - 1 / 2 : ℚ) * 2 ^ x.exponent < v ∧
    v < (x.mantissa + 1 / 2 : ℚ) * 2 ^ x.exponent

/-- A quotient is rounded to the mantissa `m` at the exponent `e` just if it is near `m · 2^e`. -/
theorem roundDiv_unscale_iff {n d m : Nat} {e : Int} (hn : 0 < n) (hd : 0 < d) :
    roundDiv (unscale n d e).1 (unscale n d e).2 = m ↔
      (m - 1 / 2 : ℚ) * 2 ^ e ≤ n / d ∧ (n : ℚ) / d ≤ (m + 1 / 2 : ℚ) * 2 ^ e ∧
        (m % 2 = 1 → (m - 1 / 2 : ℚ) * 2 ^ e < n / d ∧ (n : ℚ) / d < (m + 1 / 2 : ℚ) * 2 ^ e) := by
  have hdiv := unscale_div n d e
  have hb := (unscale_pos hn hd e).2
  rw [roundDiv_eq_iff hb]
  generalize (unscale n d e).1 = a at *
  generalize (unscale n d e).2 = b at *
  have hb' : (0 : ℚ) < b := by exact_mod_cast hb
  have hp := two_zpow_pos e
  have hv : (n : ℚ) / d = a / b * 2 ^ e := (div_eq_iff hp.ne').mp hdiv.symm
  rw [hv, mul_le_mul_iff_left₀ hp, mul_le_mul_iff_left₀ hp, mul_lt_mul_iff_left₀ hp,
    mul_lt_mul_iff_left₀ hp, le_div_iff₀ hb', div_le_iff₀ hb', lt_div_iff₀ hb', div_lt_iff₀ hb']
  -- twice each of the bounds is an integer
  have hlow : 2 * (m * b) ≤ 2 * a + b ↔ (m - 1 / 2 : ℚ) * b ≤ a := by
    rw [← @Nat.cast_le ℚ]
    push_cast
    constructor <;> intro h <;> linarith
  have hhigh : 2 * a ≤ 2 * (m * b) + b ↔ (a : ℚ) ≤ (m + 1 / 2) * b := by
    rw [← @Nat.cast_le ℚ]
    push_cast
    constructor <;> intro h <;> linarith
  have hlow' : 2 * (m * b) < 2 * a + b ↔ (m - 1 / 2 : ℚ) * b < a := by
    rw [← @Nat.cast_lt ℚ]
    push_cast
    constructor <;> intro h <;> linarith
  have hhigh' : 2 * a < 2 * (m * b) + b ↔ (a : ℚ) < (m + 1 / 2) * b := by
    rw [← @Nat.cast_lt ℚ]
    push_cast
    constructor <;> intro h <;> linarith
  rw [← hlow, ← hhigh, ← hlow', ← hhigh']
  exact ⟨fun h => ⟨h.lower, h.upper, h.strict⟩, fun h => ⟨h.1, h.2.1, h.2.2⟩⟩

/-- A quotient that is rounded to `m` at its exponent becomes the number with these parts, or with the
highest bit one place up. -/
theorem ofRatio?_eq {n d m : Nat} {e : Int} (negative : Bool) (hn : 0 < n) (he : exponentOf n d = e)
    (hr : roundDiv (unscale n d e).1 (unscale n d e).2 = m) :
    ofRatio? negative n d =
      let x : Binary64 := if m = 2 * hidden then ⟨negative, hidden, e + 1⟩ else ⟨negative, m, e⟩
      if x.exponent ≤ maxExponent then some x else none := by
  subst he hr
  unfold ofRatio?
  rw [if_neg hn.ne']

/-- **Rounding**: a quotient in the interval of a number is rounded to it. -/
theorem ofRatio?_of_rounds {x : Binary64} (hx : x.Canonical) {n d : Nat} (hn : 0 < n) (hd : 0 < d)
    (h : Rounds x (n / d)) : ofRatio? x.negative n d = some x := by
  obtain ⟨negative, m, e⟩ := x
  obtain ⟨hm, hmin, hmax, hfull⟩ := hx
  obtain ⟨hlow, hhigh, hodd⟩ := h
  dsimp only at *
  have hp := two_zpow_pos e
  have hm' : (m : ℚ) + 1 ≤ 2 * hidden := by exact_mod_cast hm
  have hupper : (n : ℚ) / d < 2 * hidden * 2 ^ e := by nlinarith
  by_cases hboundary : m = hidden ∧ e ≠ minExponent ∧ (n : ℚ) / d < hidden * 2 ^ e
  · -- below a power of two the quotient has the exponent before, and is rounded up to the power
    obtain ⟨rfl, hne, hbelow⟩ := hboundary
    have hprev : (2 : ℚ) ^ e = 2 * 2 ^ (e - 1) := by
      rw [← two_zpow_succ, sub_add_cancel]
    rw [if_pos ⟨rfl, hne⟩, hprev] at hlow
    rw [hprev] at hbelow
    have hp' := two_zpow_pos (e - 1)
    have hholds : Holds (n / d) (e - 1) := by
      refine ⟨by omega, by linarith, fun _ => ?_⟩
      have : (1 : ℚ) ≤ hidden := by norm_num [hidden]
      nlinarith
    have hr : roundDiv (unscale n d (e - 1)).1 (unscale n d (e - 1)).2 = 2 * hidden := by
      refine (roundDiv_unscale_iff hn hd).mpr ⟨?_, ?_, fun ho => ?_⟩
      · push_cast
        linarith
      · push_cast
        linarith
      · omega
    rw [ofRatio?_eq negative hn ((exponentOf_holds hn hd).unique hholds) hr]
    simp [hmax]
  · have hhalf : ((m : ℚ) - 1 / 2) * 2 ^ e ≤ n / d := by
      by_cases hpower : m = hidden ∧ e ≠ minExponent
      · have := not_lt.mp fun hlt => hboundary ⟨hpower.1, hpower.2, hlt⟩
        rw [hpower.1]
        linarith
      · rwa [if_neg hpower] at hlow
    have hholds : Holds (n / d) e := by
      refine ⟨hmin, hupper, fun hne => ?_⟩
      rcases (hfull hne).eq_or_lt with hpower | hmore
      · exact not_lt.mp fun hlt => hboundary ⟨hpower.symm, hne, hlt⟩
      · have : (hidden : ℚ) + 1 ≤ m := by exact_mod_cast hmore
        nlinarith
    have hr := (roundDiv_unscale_iff hn hd).mpr ⟨hhalf, hhigh, hodd⟩
    rw [ofRatio?_eq negative hn ((exponentOf_holds hn hd).unique hholds) hr]
    simp [hmax, hm.ne]

/-! ## The format -/

theorem canonical_zero (negative : Bool) : (zero negative).Canonical := by
  unfold Canonical zero
  decide +revert

/-- What a quotient is rounded to is a number of the format. -/
theorem canonical_of_ofRatio? {negative : Bool} {n d : Nat} {x : Binary64} (hd : 0 < d)
    (h : ofRatio? negative n d = some x) : x.Canonical := by
  rcases Nat.eq_zero_or_pos n with rfl | hn
  · cases h
    exact canonical_zero negative
  have hholds := exponentOf_holds hn hd
  have hdiv := unscale_div n d (exponentOf n d)
  have hb := (unscale_pos hn hd (exponentOf n d)).2
  rw [ofRatio?_eq negative hn rfl rfl] at h
  generalize exponentOf n d = e at *
  obtain ⟨hlow, hhigh⟩ := roundDiv_bounds (unscale n d e).1 (unscale n d e).2
  generalize (unscale n d e).1 = a at *
  generalize (unscale n d e).2 = b at *
  have hp := two_zpow_pos e
  have hupper : a / b < 2 * hidden := by
    rw [div_lt_iff_lt hb, hdiv, div_lt_iff₀ hp]
    push_cast
    exact hholds.upper
  have hlower : e ≠ minExponent → hidden ≤ a / b := by
    intro hne
    have hnot : ¬ a / b < hidden := by
      rw [div_lt_iff_lt hb, hdiv, div_lt_iff₀ hp]
      exact not_lt.mpr (hholds.lower hne)
    omega
  have hleast := hholds.least
  dsimp only at h
  split at h
  · split at h
    · cases h
      rename_i hmax
      exact ⟨show hidden < 2 * hidden by decide, by simp only; omega, hmax, fun _ => le_refl _⟩
    · cases h
  · split at h
    · cases h
      rename_i hfull hmax
      exact ⟨by simp only; omega, hleast, hmax, fun hne => (hlower hne).trans hlow⟩
    · cases h

/-- What a quotient is rounded to has the quotient in its interval. -/
theorem rounds_of_ofRatio? {negative : Bool} {n d : Nat} {x : Binary64} (hn : 0 < n) (hd : 0 < d)
    (h : ofRatio? negative n d = some x) : x.negative = negative ∧ Rounds x (n / d) := by
  have hholds := exponentOf_holds hn hd
  rw [ofRatio?_eq negative hn rfl rfl] at h
  obtain ⟨hlow, hhigh, hodd⟩ := (roundDiv_unscale_iff (e := exponentOf n d) hn hd).mp rfl
  generalize exponentOf n d = e at *
  generalize roundDiv (unscale n d e).1 (unscale n d e).2 = m at *
  dsimp only at h
  split at h
  · -- the power of two above: the numbers below it lie half as far apart as those above
    rename_i hm
    split at h
    · cases h
      have hleast := hholds.least
      have hne : e + 1 ≠ minExponent := by omega
      have hm' : (m : ℚ) = 2 * hidden := by exact_mod_cast hm
      rw [hm'] at hlow hhigh
      have hp := two_zpow_pos e
      refine ⟨rfl, ?_, ?_, fun ho => absurd ho (show ¬hidden % 2 = 1 by decide)⟩
      · rw [if_pos ⟨rfl, hne⟩, two_zpow_succ]
        linarith
      · rw [two_zpow_succ]
        linarith
    · cases h
  · split at h
    · cases h
      refine ⟨rfl, ?_, hhigh, hodd⟩
      dsimp only
      split
      · rename_i hpower
        have hp := two_zpow_pos e
        have hfull := hholds.lower hpower.2
        rw [hpower.1]
        linarith
      · exact hlow
    · cases h

/-- **Rounding**: a quotient is rounded to the number of the format in whose interval it is. -/
theorem ofRatio?_eq_some_iff {negative : Bool} {n d : Nat} {x : Binary64} (hn : 0 < n) (hd : 0 < d) :
    ofRatio? negative n d = some x ↔ x.negative = negative ∧ x.Canonical ∧ Rounds x (n / d) := by
  refine ⟨fun h => ?_, ?_⟩
  · obtain ⟨hs, hr⟩ := rounds_of_ofRatio? hn hd h
    exact ⟨hs, canonical_of_ofRatio? hd h, hr⟩
  · rintro ⟨rfl, hx, hr⟩
    exact ofRatio?_of_rounds hx hn hd hr

/-! ## Decimals -/

theorem cast_ten_pow (k : Nat) : ((10 ^ k : Nat) : ℚ) = 10 ^ (k : Int) := by
  rw [zpow_natCast]
  exact Nat.cast_pow 10 k

/-- What rounds to a number of the format is not too large. -/
theorem Rounds.lt {x : Binary64} {v : ℚ} (hx : x.Canonical) (h : Rounds x v) :
    v < 2 ^ (1024 : Int) := by
  obtain ⟨hfull, -, hmax, -⟩ := hx
  have hfull' : (x.mantissa : ℚ) + 1 ≤ 2 * hidden := by exact_mod_cast hfull
  have hp := two_zpow_pos x.exponent
  calc v ≤ (x.mantissa + 1 / 2) * 2 ^ x.exponent := h.upper
    _ < 2 * hidden * 2 ^ x.exponent := by
        apply mul_lt_mul_of_pos_right _ hp
        linarith
    _ = 2 ^ (x.exponent + 53) := two_hidden_mul _
    _ ≤ 2 ^ (1024 : Int) := by
        apply two_zpow_le
        unfold maxExponent at hmax
        omega

/-- What rounds to a number other than zero is not too small. -/
theorem Rounds.le {x : Binary64} {v : ℚ} (hx : x.Canonical) (hm : 0 < x.mantissa)
    (h : Rounds x v) : (2 : ℚ) ^ (-1075 : Int) ≤ v := by
  obtain ⟨-, hmin, -, -⟩ := hx
  have hm' : (1 : ℚ) ≤ x.mantissa := by exact_mod_cast hm
  have hp := two_zpow_pos x.exponent
  have hhalf : (1 / 2 : ℚ) ≤ x.mantissa -
      if x.mantissa = hidden ∧ x.exponent ≠ minExponent then 1 / 4 else 1 / 2 := by
    split <;> linarith
  calc (2 : ℚ) ^ (-1075 : Int) ≤ 2 ^ (x.exponent - 1) := by
        apply two_zpow_le
        unfold minExponent at hmin
        omega
    _ = 1 / 2 * 2 ^ x.exponent := by rw [zpow_sub_one₀ (by norm_num)]; ring
    _ ≤ _ * 2 ^ x.exponent := mul_le_mul_of_nonneg_right hhalf hp.le
    _ ≤ v := h.lower

/-- A number of the format without mantissa is zero. -/
theorem eq_zero_of_mantissa {x : Binary64} (hx : x.Canonical) (hm : x.mantissa = 0) :
    x = zero x.negative := by
  obtain ⟨negative, m, e⟩ := x
  obtain ⟨-, -, -, hfull⟩ := hx
  dsimp only at hm hfull ⊢
  have hpos : 0 < hidden := by decide
  have he : e = minExponent := by
    by_contra hne
    have := hfull hne
    omega
  rw [hm, he]
  rfl

/-- What is too small for any other number rounds to zero. -/
theorem rounds_zero {negative : Bool} {v : ℚ} (h0 : 0 ≤ v) (h : v < 2 ^ (-1075 : Int)) :
    Rounds (zero negative) v := by
  have hhalf : (1 / 2 : ℚ) * 2 ^ minExponent = 2 ^ (-1075 : Int) := by
    rw [show (-1075 : Int) = minExponent - 1 from rfl, zpow_sub_one₀ (by norm_num)]
    ring
  have hp := two_zpow_pos minExponent
  refine ⟨?_, ?_, fun ho => absurd ho (show ¬0 % 2 = 1 by decide)⟩
  · rw [if_neg fun hc => hc.2 rfl]
    show ((0 : Nat) - 1 / 2 : ℚ) * 2 ^ minExponent ≤ v
    rw [Nat.cast_zero, zero_sub, neg_mul]
    linarith
  · show v ≤ ((0 : Nat) + 1 / 2 : ℚ) * 2 ^ minExponent
    rw [Nat.cast_zero, zero_add, hhalf]
    exact h.le

theorem two_zpow_lt_ten_zpow : (2 : ℚ) ^ (1075 : Int) < 10 ^ (401 : Int) := by
  have h : 2 ^ 1075 < 10 ^ 401 := by decide +kernel
  exact_mod_cast h

theorem ten_zpow_le {i j : Int} (h : i ≤ j) : (10 : ℚ) ^ i ≤ 10 ^ j :=
  zpow_le_zpow_right₀ (by norm_num) h

section

variable {c : Nat} {k : Int} (hc : 0 < c)
include hc

/-- A decimal with more than four hundred zeros is beyond the range of the format. -/
theorem lt_decimal (hk : 400 < k) : (2 : ℚ) ^ (1024 : Int) < c * 10 ^ k := by
  have hc' : (1 : ℚ) ≤ c := by exact_mod_cast hc
  have hten : (0 : ℚ) < 10 ^ k := by positivity
  calc (2 : ℚ) ^ (1024 : Int) ≤ 2 ^ (1075 : Int) := two_zpow_le (by decide)
    _ < 10 ^ (401 : Int) := two_zpow_lt_ten_zpow
    _ ≤ 10 ^ k := ten_zpow_le (by omega)
    _ ≤ c * 10 ^ k := le_mul_of_one_le_left hten.le hc'

/-- A decimal that begins more than four hundred places after the point rounds to zero. -/
theorem decimal_lt (hk : k + (c.log2 : Int) + 1 < -400) : (c * 10 ^ k : ℚ) < 2 ^ (-1075 : Int) := by
  have hten : (0 : ℚ) < 10 ^ k := by positivity
  have hbase : (2 : ℚ) ^ ((c.log2 : Int) + 1) ≤ 10 ^ ((c.log2 : Int) + 1) := by
    have : (c.log2 : Int) + 1 = ((c.log2 + 1 : Nat) : Int) := by push_cast; rfl
    rw [this, zpow_natCast, zpow_natCast]
    exact pow_le_pow_left₀ (by norm_num) (by norm_num) _
  calc (c * 10 ^ k : ℚ) < 10 ^ ((c.log2 : Int) + 1) * 10 ^ k :=
        mul_lt_mul_of_pos_right ((log2_bounds hc).2.trans_le hbase) hten
    _ ≤ 10 ^ (-401 : Int) := by
        rw [← zpow_add₀ (by norm_num)]
        exact ten_zpow_le (by omega)
    _ < 2 ^ (-1075 : Int) := by
        rw [zpow_neg, zpow_neg]
        exact inv_strictAnti₀ (two_zpow_pos _) two_zpow_lt_ten_zpow

end

/-- **Decimals**: a decimal is rounded to the number of the format in whose interval it is. -/
theorem ofDecimal?_eq_some_iff {negative : Bool} {c : Nat} {k : Int} {x : Binary64} :
    ofDecimal? negative c k = some x ↔ x.negative = negative ∧ x.Canonical ∧ Rounds x (c * 10 ^ k) := by
  -- where there is nothing but zero to round to, rounding gives it
  have hzero {v : ℚ} (h0 : 0 ≤ v) (hv : v < 2 ^ (-1075 : Int)) :
      some (zero negative) = some x ↔ x.negative = negative ∧ x.Canonical ∧ Rounds x v := by
    refine ⟨fun h => ?_, ?_⟩
    · cases h
      exact ⟨rfl, canonical_zero negative, rounds_zero h0 hv⟩
    · rintro ⟨rfl, hx, hr⟩
      have hm : x.mantissa = 0 := by
        by_contra hm
        exact absurd (hr.le hx (Nat.pos_of_ne_zero hm)) (not_le.mpr hv)
      rw [← eq_zero_of_mantissa hx hm]
  unfold ofDecimal?
  split
  · rename_i hc
    rw [hc, Nat.cast_zero, zero_mul]
    exact hzero le_rfl (two_zpow_pos _)
  rename_i hc
  have hc : 0 < c := Nat.pos_of_ne_zero hc
  have hpos : (0 : ℚ) ≤ c * 10 ^ k := by positivity
  have hten (j : Nat) : 0 < Nat.pow 10 j := Nat.pow_pos (by decide)
  have hcast (j : Nat) : ((Nat.pow 10 j : Nat) : ℚ) = 10 ^ (j : Int) := cast_ten_pow j
  split
  · rename_i hk
    simp only [reduceCtorEq, false_iff]
    rintro ⟨-, hx, hr⟩
    exact lt_irrefl _ ((hr.lt hx).trans (lt_decimal hc hk))
  split
  · rename_i hk
    exact hzero hpos (decimal_lt hc hk)
  split
  · rename_i hk
    rw [ofRatio?_eq_some_iff (Nat.mul_pos hc (hten _)) Nat.one_pos, Nat.cast_mul, hcast,
      Int.toNat_of_nonneg hk, Nat.cast_one, div_one]
  · rename_i hk
    rw [ofRatio?_eq_some_iff hc (hten _), hcast, Int.toNat_of_nonneg (by omega), zpow_neg,
      div_inv_eq_mul]

/-- What a decimal is rounded to is a number of the format. -/
theorem canonical_of_ofDecimal? {negative : Bool} {c : Nat} {k : Int} {x : Binary64}
    (h : ofDecimal? negative c k = some x) : x.Canonical :=
  (ofDecimal?_eq_some_iff.mp h).2.1

theorem canonical_of_add? {x y z : Binary64} (h : add? x y = some z) : z.Canonical := by
  unfold add? at h
  dsimp only at h
  split at h
  · cases h
    exact canonical_zero _
  split at h
  · exact canonical_of_ofRatio? (by decide) h
  · exact canonical_of_ofRatio? (Nat.pow_pos (by decide)) h

/-- A finite sum is a number of the format. -/
theorem canonical_of_sum? {xs : List Binary64} {y : Binary64} (h : sum? xs = some y) : y.Canonical := by
  have hrun : ∀ x : Binary64, x.Canonical → xs.foldlM add? x = some y → y.Canonical := by
    clear h
    induction xs with
    | nil =>
      intro x hx hy
      obtain rfl := Option.some.inj hy
      exact hx
    | cons z zs ih =>
      intro x hx hy
      rw [List.foldlM_cons] at hy
      obtain ⟨w, hw, hy⟩ := Option.bind_eq_some_iff.mp hy
      exact ih w (canonical_of_add? hw) hy
  exact hrun _ (canonical_zero true) h

end ScriptLink.Binary64
