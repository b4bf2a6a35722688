import ScriptLink.Proofs.Number.Literal
import ScriptLink.Proofs.Number.Rounding

/-!
# ScriptLink.Proofs.Number.Shortest — the shortest decimal reads back

* `rounds_of_accepts`: a decimal that the search accepts is in the interval of the number.
* `onGrid?_isSome`: a grid finer than a quarter of the distance to the next number has such a decimal,
  and `fine_top` says that the search comes to one.
* `rounds_shortest` puts these together, and `Number.reread_real`: a number of the format is read back
  from its text.
-/

namespace ScriptLink.Binary64

/-! ## Grids -/

/-- The test by which `onGrid?` accepts a multiple of `10^k`. -/
def accepts (x : Binary64) (k : Int) (c : Nat) : Bool :=
  let (unit, quarter) := commonFactors k x.exponent
  let value := 4 * x.mantissa * quarter
  let above := value + 2 * quarter
  let below := value -
    (if x.mantissa = hidden ∧ x.exponent ≠ minExponent then quarter else 2 * quarter)
  0 < c && (if x.mantissa % 2 = 0 then below ≤ c * unit && c * unit ≤ above
    else below < c * unit && c * unit < above)

/-- The multiples of `10^k` just below and just above a number. -/
def neighbours (x : Binary64) (k : Int) : Nat × Nat :=
  let (unit, quarter) := commonFactors k x.exponent
  (4 * x.mantissa * quarter / unit, 4 * x.mantissa * quarter / unit + 1)

theorem accepts_of_onGrid? {x : Binary64} {k : Int} {c : Nat} (h : onGrid? x k = some c) :
    accepts x k c = true := by
  unfold onGrid? at h
  dsimp only at h
  split at h
  · cases h
  · cases h
    assumption
  · cases h
    assumption
  · rename_i hlow hhigh
    split at h
    · cases h
      exact hlow
    · split at h
      · cases h
        exact hhigh
      · cases h
        rcases Nat.mod_two_eq_zero_or_one
          (4 * x.mantissa * (commonFactors k x.exponent).2 / (commonFactors k x.exponent).1)
          with he | he
        · rw [he]
          exact hlow
        · rw [he]
          exact hhigh

theorem onGrid?_isSome_of_accepts {x : Binary64} {k : Int}
    (h : accepts x k (neighbours x k).2 = true) : (onGrid? x k).isSome = true := by
  unfold onGrid?
  dsimp only
  split
  · rename_i hhigh
    exact absurd h (by rw [show accepts x k (neighbours x k).2 = false from hhigh]; decide)
  · rfl
  · rfl
  · split
    · rfl
    · split <;> rfl

/-- A power with any exponent, as a fraction. -/
theorem power_fraction {b : Nat} (hb : 0 < b) (k : Int) :
    let f := if 0 ≤ k then (Nat.pow b k.toNat, 1) else (1, Nat.pow b (-k).toNat)
    0 < f.1 ∧ 0 < f.2 ∧ (f.1 : ℚ) = b ^ k * f.2 := by
  have hb' : (b : ℚ) ≠ 0 := by exact_mod_cast hb.ne'
  have hcast (n : Nat) : ((Nat.pow b n : Nat) : ℚ) = (b : ℚ) ^ n := Nat.cast_pow b n
  dsimp only
  split
  · rename_i hk
    obtain ⟨n, rfl⟩ := Int.eq_ofNat_of_zero_le hk
    refine ⟨Nat.pow_pos hb, Nat.one_pos, ?_⟩
    rw [hcast, Int.toNat_natCast, zpow_natCast, Nat.cast_one, mul_one]
  · rename_i hk
    obtain ⟨n, rfl⟩ : ∃ n : Nat, k = -n := ⟨(-k).toNat, by omega⟩
    refine ⟨Nat.one_pos, Nat.pow_pos hb, ?_⟩
    rw [hcast, neg_neg, Int.toNat_natCast, zpow_neg, zpow_natCast, Nat.cast_one,
      inv_mul_cancel₀ (pow_ne_zero n hb')]

theorem commonFactors_spec (k e : Int) : 0 < (commonFactors k e).1 ∧ 0 < (commonFactors k e).2 ∧
    ((commonFactors k e).1 : ℚ) * 2 ^ e = 4 * 10 ^ k * (commonFactors k e).2 := by
  have hten := power_fraction (b := 10) (by decide) k
  have htwo := power_fraction (b := 2) (by decide) e
  unfold commonFactors
  dsimp only at *
  generalize (if 0 ≤ k then (Nat.pow 10 k.toNat, 1) else (1, Nat.pow 10 (-k).toNat)) = f at *
  generalize (if 0 ≤ e then (Nat.pow 2 e.toNat, 1) else (1, Nat.pow 2 (-e).toNat)) = g at *
  obtain ⟨hp, hq, hpq⟩ := hten
  obtain ⟨hs, ht, hst⟩ := htwo
  refine ⟨by positivity, by positivity, ?_⟩
  push_cast at *
  rw [hpq, hst]
  ring

/-- An accepted decimal is in the interval of the number. -/
theorem rounds_of_accepts {x : Binary64} (hm : 0 < x.mantissa) {k : Int} {c : Nat}
    (h : accepts x k c = true) : Rounds x (c * 10 ^ k) := by
  obtain ⟨-, hquarter, hfactors⟩ := commonFactors_spec k x.exponent
  unfold accepts at h
  dsimp only at h
  rw [Bool.and_eq_true, decide_eq_true_eq] at h
  generalize (commonFactors k x.exponent).1 = unit at *
  generalize (commonFactors k x.exponent).2 = quarter at *
  have hq : (0 : ℚ) < 4 * quarter := by positivity
  have hp := two_zpow_pos x.exponent
  -- the test compares numerators over one denominator
  have hscale : (c : ℚ) * 10 ^ k = c * unit / (4 * quarter) * 2 ^ x.exponent := by
    rw [div_mul_eq_mul_div, eq_div_iff hq.ne', mul_assoc (c : ℚ) unit, hfactors]
    ring
  have hbelow : 2 * quarter ≤ 4 * x.mantissa * quarter :=
    Nat.mul_le_mul_right quarter (by omega)
  refine ⟨?_, ?_, fun hodd => ?_⟩
  · rw [hscale, mul_le_mul_iff_left₀ hp, le_div_iff₀ hq]
    have hlow : 4 * x.mantissa * quarter ≤ c * unit +
        if x.mantissa = hidden ∧ x.exponent ≠ minExponent then quarter else 2 * quarter := by
      have := h.2
      split at this <;> rw [Bool.and_eq_true, decide_eq_true_eq, decide_eq_true_eq] at this <;> omega
    split at hlow
    · have : 4 * (x.mantissa : ℚ) * quarter ≤ c * unit + quarter := by exact_mod_cast hlow
      rw [if_pos (by assumption)]
      linarith
    · have : 4 * (x.mantissa : ℚ) * quarter ≤ c * unit + 2 * quarter := by exact_mod_cast hlow
      rw [if_neg (by assumption)]
      linarith
  · rw [hscale, mul_le_mul_iff_left₀ hp, div_le_iff₀ hq]
    have habove : c * unit ≤ 4 * x.mantissa * quarter + 2 * quarter := by
      have := h.2
      split at this <;> rw [Bool.and_eq_true, decide_eq_true_eq, decide_eq_true_eq] at this <;> omega
    have : (c : ℚ) * unit ≤ 4 * x.mantissa * quarter + 2 * quarter := by exact_mod_cast habove
    linarith
  · rw [hscale, mul_lt_mul_iff_left₀ hp, mul_lt_mul_iff_left₀ hp, lt_div_iff₀ hq, div_lt_iff₀ hq]
    -- an odd mantissa is not the least one of 53 bits
    have hnot : ¬(x.mantissa = hidden ∧ x.exponent ≠ minExponent) := by
      rintro ⟨heq, -⟩
      rw [heq] at hodd
      exact absurd hodd (by decide)
    have hin := h.2
    rw [if_neg (by omega), if_neg hnot, Bool.and_eq_true, decide_eq_true_eq, decide_eq_true_eq] at hin
    have h1 : 4 * x.mantissa * quarter < c * unit + 2 * quarter := by omega
    have h2 : (4 * x.mantissa * quarter : ℚ) < c * unit + 2 * quarter := by exact_mod_cast h1
    have h3 : (c * unit : ℚ) < 4 * x.mantissa * quarter + 2 * quarter := by exact_mod_cast hin.2
    exact ⟨by linarith, by linarith⟩

/-- A grid that is finer than a quarter of the distance to the next number has a multiple that is
accepted. -/
theorem onGrid?_isSome {x : Binary64} {k : Int}
    (h : 4 * (10 : ℚ) ^ k ≤ 2 ^ x.exponent) : (onGrid? x k).isSome = true := by
  apply onGrid?_isSome_of_accepts
  obtain ⟨hunit, hquarter, hfactors⟩ := commonFactors_spec k x.exponent
  have hfine : (commonFactors k x.exponent).1 ≤ (commonFactors k x.exponent).2 := by
    have hp := two_zpow_pos x.exponent
    have : ((commonFactors k x.exponent).1 : ℚ) * 2 ^ x.exponent ≤
        (commonFactors k x.exponent).2 * 2 ^ x.exponent := by
      rw [hfactors, mul_comm ((commonFactors k x.exponent).2 : ℚ)]
      exact mul_le_mul_of_nonneg_right h (Nat.cast_nonneg _)
    exact_mod_cast le_of_mul_le_mul_right this hp
  unfold accepts neighbours
  generalize commonFactors k x.exponent = f at *
  obtain ⟨unit, quarter⟩ := f
  dsimp only at *
  have hhigh := Nat.lt_div_mul_add hunit (a := 4 * x.mantissa * quarter)
  have hlow := Nat.div_mul_le_self (4 * x.mantissa * quarter) unit
  have hmul := Nat.succ_mul (4 * x.mantissa * quarter / unit) unit
  rw [Nat.succ_eq_add_one] at hmul
  rw [Bool.and_eq_true, decide_eq_true_eq]
  refine ⟨Nat.succ_pos _, ?_⟩
  have hbelow : 4 * x.mantissa * quarter -
      (if x.mantissa = hidden ∧ x.exponent ≠ minExponent then quarter else 2 * quarter) <
        (4 * x.mantissa * quarter / unit + 1) * unit := by
    split <;> omega
  split <;> rw [Bool.and_eq_true, decide_eq_true_eq, decide_eq_true_eq]
  · exact ⟨hbelow.le, by omega⟩
  · exact ⟨hbelow, by omega⟩

/-! ## The search -/

theorem search_spec {x : Binary64} {fuel j : Nat} {k : Int} (hj : j < fuel)
    (h : (onGrid? x (k - j)).isSome = true) :
    onGrid? x (search x fuel k).power = some (search x fuel k).coefficient := by
  induction fuel generalizing j k with
  | zero => omega
  | succ fuel ih =>
    unfold search
    cases hk : onGrid? x k with
    | some c => exact hk
    | none =>
      cases j with
      | zero =>
        rw [Nat.cast_zero, sub_zero, hk] at h
        cases h
      | succ j =>
        apply ih (j := j) (by omega)
        rw [Nat.cast_succ] at h
        rwa [show k - 1 - (j : Int) = k - (j + 1) by ring]

/-- A power of ten is below a power of two that has ten thirds of its exponent, roughly. -/
theorem ten_pow_le (q r : Nat) : (10 : ℚ) ^ ((3 * q + r : Nat) : Int) ≤
    2 ^ ((10 * q + 4 * r : Nat) : Int) := by
  have hthree : (1000 : ℚ) ^ q ≤ 1024 ^ q := pow_le_pow_left₀ (by norm_num) (by norm_num) q
  have hone : (10 : ℚ) ^ r ≤ 16 ^ r := pow_le_pow_left₀ (by norm_num) (by norm_num) r
  rw [zpow_natCast, zpow_natCast, pow_add, pow_add, pow_mul, pow_mul, pow_mul]
  norm_num only
  exact mul_le_mul hthree hone (by positivity) (by positivity)

/-- A power of two is below a power of ten that has 28 parts in 93 of its exponent, roughly. -/
theorem two_pow_le (q r : Nat) : (2 : ℚ) ^ ((93 * q + 3 * r : Nat) : Int) ≤
    10 ^ ((28 * q + r : Nat) : Int) := by
  have hmany : ((2 : ℚ) ^ 93) ^ q ≤ (10 ^ 28) ^ q := pow_le_pow_left₀ (by norm_num) (by norm_num) q
  have hone : ((2 : ℚ) ^ 3) ^ r ≤ 10 ^ r := pow_le_pow_left₀ (by norm_num) (by norm_num) r
  rw [zpow_natCast, zpow_natCast, pow_add, pow_add, pow_mul, pow_mul, pow_mul]
  exact mul_le_mul hmany hone (by positivity) (by positivity)

/-- The grid twenty-three steps below the first one is fine enough. -/
theorem fine_top {e l : Int} (he : minExponent ≤ e) (he' : e ≤ maxExponent) (hl : l ≤ 52) :
    4 * (10 : ℚ) ^ ((l + e + 1) * 30103 / 100000 + 2 - 23) ≤ 2 ^ e := by
  unfold minExponent at he
  unfold maxExponent at he'
  have hk : (l + e + 1) * 30103 / 100000 + 2 - 23 ≤ (e + 53) * 30103 / 100000 - 21 := by omega
  generalize (l + e + 1) * 30103 / 100000 + 2 - 23 = k at *
  suffices h : (10 : ℚ) ^ k ≤ 2 ^ (e - 2) by
    have hfour : (2 : ℚ) ^ e = 4 * 2 ^ (e - 2) := by
      rw [show e = e - 2 + 1 + 1 by ring, two_zpow_succ, two_zpow_succ]
      ring_nf
    rw [hfour]
    linarith
  rcases le_total 0 k with hpos | hneg
  · obtain ⟨n, rfl⟩ := Int.eq_ofNat_of_zero_le hpos
    have hn : n = 3 * (n / 3) + n % 3 := (Nat.div_add_mod n 3).symm
    have hle := ten_pow_le (n / 3) (n % 3)
    rw [← hn] at hle
    exact hle.trans (two_zpow_le (by push_cast; omega))
  · obtain ⟨n, rfl⟩ : ∃ n : Nat, k = -n := ⟨(-k).toNat, by omega⟩
    have hn : n = 28 * (n / 28) + n % 28 := (Nat.div_add_mod n 28).symm
    have hle := two_pow_le (n / 28) (n % 28)
    rw [← hn] at hle
    have hinv : (10 : ℚ) ^ (-(n : Int)) ≤ 2 ^ (-((93 * (n / 28) + 3 * (n % 28) : Nat) : Int)) := by
      rw [zpow_neg, zpow_neg]
      exact inv_anti₀ (two_zpow_pos _) hle
    exact hinv.trans (two_zpow_le (by push_cast; omega))

/-- The shortest decimal of a number is in its interval. -/
theorem rounds_shortest {x : Binary64} (hx : x.Canonical) (hm : 0 < x.mantissa) :
    Rounds x (x.shortest.coefficient * 10 ^ x.shortest.power) := by
  obtain ⟨hfull, hmin, hmax, -⟩ := hx
  have hlog : (x.mantissa.log2 : Int) ≤ 52 := by
    have : x.mantissa.log2 < 53 := (Nat.log2_lt hm.ne').mpr hfull
    omega
  have hsome := onGrid?_isSome (fine_top hmin hmax hlog)
  have hfound := @search_spec x 24 23 _ (by decide) hsome
  exact rounds_of_accepts hm (accepts_of_onGrid? hfound)

end ScriptLink.Binary64

namespace ScriptLink.Number

/-! ## Reading back -/

theorem digitsValue_append (ds es : List Char) : Json.digitsValue (ds ++ es) =
    Nat.ofDigitChars 10 es (Json.digitsValue ds) := by
  unfold Json.digitsValue
  rw [Nat.ofDigitChars_append]

theorem digitsValue_append_zeros (ds : List Char) (n : Nat) :
    Json.digitsValue (ds ++ List.replicate n '0') = Json.digitsValue ds * 10 ^ n := by
  rw [digitsValue_append, Nat.ofDigitChars_replicate_zero, Nat.mul_comm]

theorem digitsValue_zeros_append (n : Nat) (ds : List Char) :
    Json.digitsValue (List.replicate n '0' ++ ds) = Json.digitsValue ds := by
  unfold Json.digitsValue
  rw [Nat.ofDigitChars_append, Nat.ofDigitChars_replicate_zero, Nat.mul_zero]

theorem value?_of_frac {l : Literal} (hp : Literal.padded l.whole = false)
    (hf : l.frac ≠ [] ∨ l.exponent ≠ none) : l.value? =
      (Binary64.ofDecimal? l.negative (Json.digitsValue (l.whole ++ l.frac))
        (l.exponent.getD 0 - l.frac.length)).map .real := by
  have hn : (l.frac.isEmpty && l.exponent.isNone) = false := by
    rcases hf with hf | hf
    · rw [List.isEmpty_eq_false_iff.mpr hf, Bool.false_and]
    · rw [Option.isNone_eq_false_iff.mpr (Option.isSome_iff_ne_none.mpr hf), Bool.and_false]
  unfold Literal.value? Json.assemble?
  rw [hp, hn]
  rfl

theorem padded_append {ds : List Char} (h : ds.head? ≠ some '0') (hne : ds ≠ []) (es : List Char) :
    Literal.padded (ds ++ es) = false := by
  apply padded_of_head?
  cases ds with
  | nil => exact absurd rfl hne
  | cons c cs => exact h

theorem padded_take {ds : List Char} (h : ds.head? ≠ some '0') (n : Nat) :
    Literal.padded (ds.take n) = false := by
  apply padded_of_head?
  rw [List.head?_take]
  split
  · exact fun hnone => nomatch hnone
  · exact h

/-- The literal of a decimal stands for what a spelling of the decimal is rounded to. -/
theorem value?_ofDecimal (negative : Bool) {d : Binary64.Decimal} (hc : 0 < d.coefficient) :
    ∃ (c : Nat) (k : Int), (c * 10 ^ k : ℚ) = d.coefficient * 10 ^ d.power ∧
      (Literal.ofDecimal negative d).value? = (Binary64.ofDecimal? negative c k).map .real := by
  have hne := digits_ne_nil d.coefficient
  have hlead := head?_digits_ne_zero hc
  have hvalue := digitsValue_digits d.coefficient
  unfold Literal.ofDecimal
  generalize digits d.coefficient = ds at *
  have hlen := List.length_pos_iff.mpr hne
  dsimp only
  by_cases hpos : positional (d.power + ds.length - 1) = true
  · rw [if_pos hpos]
    by_cases hpower : 0 ≤ d.power
    · rw [if_pos hpower]
      -- zeros fill the places up to the point, and one more stands after it
      refine ⟨d.coefficient * 10 ^ (d.power.toNat + 1), -1, ?_, ?_⟩
      · rw [Nat.cast_mul, Binary64.cast_ten_pow, mul_assoc, ← zpow_add₀ (by norm_num)]
        congr 2
        push_cast
        omega
      · rw [value?_of_frac (padded_append hlead hne _) (Or.inl (List.cons_ne_nil _ _)), List.append_assoc,
          ← List.replicate_succ', digitsValue_append_zeros, hvalue]
        rfl
    · rw [if_neg hpower]
      refine ⟨d.coefficient, d.power, rfl, ?_⟩
      by_cases he : 0 ≤ d.power + ds.length - 1
      · rw [if_pos he]
        have hdrop : ds.drop ((d.power + ds.length - 1).toNat + 1) ≠ [] := by
          rw [ne_eq, List.drop_eq_nil_iff]
          omega
        rw [value?_of_frac (padded_take hlead _) (Or.inl hdrop)]
        dsimp only
        rw [List.take_append_drop, hvalue, List.length_drop, Option.getD_none]
        congr 2
        omega
      · rw [if_neg he]
        rw [value?_of_frac rfl (Or.inl (by simp [hne]))]
        dsimp only
        rw [← List.replicate_one, ← List.append_assoc, List.replicate_append_replicate,
          digitsValue_zeros_append, hvalue, List.length_append, List.length_replicate, Option.getD_none]
        congr 2
        omega
  · rw [if_neg hpos]
    refine ⟨d.coefficient, d.power, rfl, ?_⟩
    rw [value?_of_frac (padded_take hlead _) (Or.inr (Option.some_ne_none _))]
    dsimp only
    rw [List.take_append_drop, hvalue, List.length_drop, Option.getD_some]
    congr 2
    omega

/-- A floating-point number is read back from its text. -/
theorem reread_real {x : Binary64} (hx : x.Canonical) : reread (.real x) = some (.real x) := by
  unfold reread literal
  dsimp only
  rcases Nat.eq_zero_or_pos x.mantissa with hm | hm
  · rw [if_pos hm, Binary64.eq_zero_of_mantissa hx hm]
    rfl
  · rw [if_neg hm.ne']
    have hr := Binary64.rounds_shortest hx hm
    have hc : 0 < x.shortest.coefficient := by
      rcases Nat.eq_zero_or_pos x.shortest.coefficient with hc | hc
      · have hlow := hr.le hx hm
        rw [hc, Nat.cast_zero, zero_mul] at hlow
        exact absurd hlow (not_le.mpr (Binary64.two_zpow_pos _))
      · exact hc
    obtain ⟨c, k, hck, hv⟩ := value?_ofDecimal x.negative hc
    rw [hv, Binary64.ofDecimal?_eq_some_iff.mpr ⟨rfl, hx, hck ▸ hr⟩]
    rfl

end ScriptLink.Number
