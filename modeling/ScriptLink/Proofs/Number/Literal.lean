import Mathlib.Tactic.SplitIfs
import ScriptLink.Json.Printer
import ScriptLink.Json.Reader

/-!
# ScriptLink.Proofs.Number.Literal — numbers as they are written

* A `Literal` is what the text of a number consists of: its sign, its digits before and after the
  point, its exponent. `Number.literal` is the one that the printer writes (`chars_literal`).
* `Number.reread` is the number that this literal stands for, if it stands for one.
* `number_chars`: the reader finds exactly that number in the text, whatever follows it
  (`Literal.Stops`).
* `reread_int`: an integer of 64 bits stands for itself.
-/

namespace ScriptLink

theorem toOption_bind {ε α β : Type} (x : Except ε α) (f : α → Except ε β) :
    (x >>= f).toOption = x.toOption.bind fun a => (f a).toOption := by
  cases x <;> rfl

@[simp] theorem toOption_ok {ε α : Type} (a : α) : (Except.ok a : Except ε α).toOption = some a := rfl

@[simp] theorem toOption_error {ε α : Type} (e : ε) : (Except.error e : Except ε α).toOption = none :=
  rfl

theorem eq_ok_of_toOption {ε α : Type} {x : Except ε α} {a : α} (h : x.toOption = some a) :
    x = .ok a := by
  cases x with
  | error e => simp at h
  | ok b => rw [toOption_ok, Option.some.injEq] at h; rw [h]

namespace Number

/-! ## Literals -/

/-- What the text of a number consists of. -/
structure Literal where
  /-- There is a minus sign. -/
  negative : Bool
  /-- The digits before the point. -/
  whole : List Char
  /-- The digits after the point; without any there is no point either. -/
  frac : List Char
  /-- The exponent, if one is written. -/
  exponent : Option Int

namespace Literal

/-- The sign. -/
def signChars (l : Literal) : List Char := if l.negative then ['-'] else []

/-- The point and what follows it. -/
def fractionChars (l : Literal) : List Char :=
  match l.frac with
  | [] => []
  | d :: ds => '.' :: d :: ds

/-- The exponent with its sign. -/
def exponentChars (l : Literal) : List Char :=
  match l.exponent with
  | none => []
  | some e => 'e' :: (if e < 0 then '-' else '+') :: digits e.natAbs

/-- The text after the sign. -/
def magnitudeChars (l : Literal) : List Char :=
  l.whole ++ (l.fractionChars ++ l.exponentChars)

/-- The text of a literal. -/
def chars (l : Literal) : List Char := l.signChars ++ l.magnitudeChars

/-- Digits stand where digits belong, and at least one of them before the point. -/
structure Valid (l : Literal) : Prop where
  whole_ne_nil : l.whole ≠ []
  whole_digits : ∀ c ∈ l.whole, c.isDigit = true
  frac_digits : ∀ c ∈ l.frac, c.isDigit = true

/-- Digits that begin with a zero to which others follow. -/
def padded : List Char → Bool
  | '0' :: _ :: _ => true
  | _ => false

/-- The number that a literal stands for; a zero before another digit makes it no number. -/
def value? (l : Literal) : Option Number :=
  if padded l.whole then none else Json.assemble? l.negative l.whole l.frac l.exponent

/-- A text that does not carry a number further. -/
def Stops (rest : List Char) : Prop :=
  ∀ c ∈ rest.head?, c.isDigit = false ∧ c ≠ '.' ∧ c ≠ 'e' ∧ c ≠ 'E'

theorem stops_nil : Stops [] := by
  intro c hc
  cases hc

theorem stops_cons {c : Char} (rest : List Char)
    (h : c.isDigit = false ∧ c ≠ '.' ∧ c ≠ 'e' ∧ c ≠ 'E') : Stops (c :: rest) := by
  intro d hd
  cases hd
  exact h

/-- The literal of a nonzero decimal. -/
def ofDecimal (negative : Bool) (d : Binary64.Decimal) : Literal :=
  let ds := digits d.coefficient
  let e := d.power + ds.length - 1
  if positional e then
    if 0 ≤ d.power then ⟨negative, ds ++ List.replicate d.power.toNat '0', ['0'], none⟩
    else if 0 ≤ e then ⟨negative, ds.take (e.toNat + 1), ds.drop (e.toNat + 1), none⟩
    else ⟨negative, ['0'], List.replicate (-e - 1).toNat '0' ++ ds, none⟩
  else ⟨negative, ds.take 1, ds.drop 1, some e⟩

end Literal

/-- The literal that is written for a number. -/
def literal : Number → Literal
  | .int i => ⟨decide (i < 0), digits i.natAbs, [], none⟩
  | .real x =>
    if x.mantissa = 0 then ⟨x.negative, ['0'], ['0'], none⟩
    else Literal.ofDecimal x.negative x.shortest

/-- The number that the text of a number stands for. -/
def reread (n : Number) : Option Number := n.literal.value?

theorem digits_ne_nil (n : Nat) : digits n ≠ [] := Nat.toDigits_ne_nil

theorem isDigit_of_mem_digits {n : Nat} {c : Char} (h : c ∈ digits n) : c.isDigit = true :=
  Nat.isDigit_of_mem_toDigits (by decide) (by decide) h

theorem digitsValue_digits (n : Nat) : Json.digitsValue (digits n) = n :=
  Nat.ofDigitChars_ten_toDigits

/-! ## The printer writes literals -/

namespace Literal

theorem negative_ofDecimal (negative : Bool) (d : Binary64.Decimal) :
    (ofDecimal negative d).negative = negative := by
  unfold ofDecimal
  dsimp only
  split_ifs <;> rfl

theorem fractionChars_of_ne_nil {l : Literal} (h : l.frac ≠ []) :
    l.fractionChars = '.' :: l.frac := by
  unfold fractionChars
  cases hf : l.frac with
  | nil => exact absurd hf h
  | cons d ds => rfl

theorem magnitudeChars_ofDecimal (negative : Bool) (d : Binary64.Decimal) :
    (ofDecimal negative d).magnitudeChars = decimalChars d := by
  unfold ofDecimal decimalChars magnitudeChars
  have hne := digits_ne_nil d.coefficient
  generalize digits d.coefficient = ds at hne
  dsimp only
  by_cases hp : positional (d.power + ds.length - 1) = true
  · rw [if_pos hp, if_pos hp]
    by_cases h0 : 0 ≤ d.power
    · rw [if_pos h0, if_pos h0]
      rfl
    rw [if_neg h0, if_neg h0]
    by_cases he : 0 ≤ d.power + ds.length - 1
    · rw [if_pos he, if_pos he]
      have hdrop : ds.drop ((d.power + ds.length - 1).toNat + 1) ≠ [] := by
        rw [ne_eq, List.drop_eq_nil_iff]
        omega
      rw [fractionChars_of_ne_nil hdrop]
      simp [exponentChars]
    · rw [if_neg he, if_neg he]
      have hfrac : List.replicate (-(d.power + ds.length - 1) - 1).toNat '0' ++ ds ≠ [] := by
        simp [hne]
      rw [fractionChars_of_ne_nil hfrac]
      simp [exponentChars]
  · rw [if_neg hp, if_neg hp]
    match ds, hne with
    | [a], _ => rfl
    | a :: b :: rest, _ => rfl

theorem valid_ofDecimal (negative : Bool) (d : Binary64.Decimal) : (ofDecimal negative d).Valid := by
  unfold ofDecimal
  have hne := digits_ne_nil d.coefficient
  have hds : ∀ c ∈ digits d.coefficient, c.isDigit = true := fun c h => isDigit_of_mem_digits h
  generalize digits d.coefficient = ds at hne hds
  have hzero : ∀ n c, c ∈ List.replicate n '0' → c.isDigit = true := by
    intro n c h
    rw [(List.mem_replicate.mp h).2]
    decide
  dsimp only
  split_ifs with hp h0 he
  · refine ⟨by simp [hne], ?_, by simp⟩
    intro c hc
    rcases List.mem_append.mp hc with h | h
    · exact hds c h
    · exact hzero _ c h
  · refine ⟨by simp [hne], ?_, ?_⟩
    · exact fun c hc => hds c (List.mem_of_mem_take hc)
    · exact fun c hc => hds c (List.mem_of_mem_drop hc)
  · refine ⟨by simp, by simp, ?_⟩
    intro c hc
    rcases List.mem_append.mp hc with h | h
    · exact hzero _ c h
    · exact hds c h
  · refine ⟨by simp [hne], ?_, ?_⟩
    · exact fun c hc => hds c (List.mem_of_mem_take hc)
    · exact fun c hc => hds c (List.mem_of_mem_drop hc)

end Literal

/-- The text of a number is that of its literal. -/
theorem chars_literal (n : Number) : n.literal.chars = n.chars := by
  cases n with
  | int i =>
    by_cases h : i < 0 <;>
      simp [literal, chars, integerChars, Literal.chars, Literal.signChars, Literal.magnitudeChars,
        Literal.fractionChars, Literal.exponentChars, h]
  | real x =>
    have hs : ∀ l : Literal, l.negative = x.negative →
        l.chars = if x.negative then '-' :: l.magnitudeChars else l.magnitudeChars := by
      intro l hl
      unfold Literal.chars Literal.signChars
      rw [hl]
      cases x.negative <;> rfl
    unfold literal chars realChars
    by_cases h : x.mantissa = 0
    · simp only [if_pos h]
      exact hs _ rfl
    · simp only [if_neg h]
      rw [hs _ (Literal.negative_ofDecimal _ _), Literal.magnitudeChars_ofDecimal]

theorem valid_literal (n : Number) : n.literal.Valid := by
  cases n with
  | int i => exact ⟨digits_ne_nil _, fun c h => isDigit_of_mem_digits h, by simp [literal]⟩
  | real x =>
    by_cases h : x.mantissa = 0
    · simp only [literal, if_pos h]
      exact ⟨by simp, by simp, by simp⟩
    · simp only [literal, if_neg h]
      exact Literal.valid_ofDecimal _ _

end Number

/-! ## The reader takes literals -/

namespace Json

open Number

theorem digits_append {ds rest : List Char} (hne : ds ≠ []) (hds : ∀ c ∈ ds, c.isDigit = true)
    (hr : ∀ c ∈ rest.head?, c.isDigit = false) : digits (ds ++ rest) = .ok (ds, rest) := by
  have htake : rest.takeWhile Char.isDigit = [] := by
    cases rest with
    | nil => rfl
    | cons c cs => simp [hr c rfl]
  have hdrop : rest.dropWhile Char.isDigit = rest := by
    cases rest with
    | nil => rfl
    | cons c cs => simp [hr c rfl]
  unfold digits
  rw [List.takeWhile_append_of_pos hds, List.dropWhile_append_of_pos hds, htake, hdrop,
    List.append_nil]
  simp [hne]

theorem fraction_append {l : Literal} (h : l.Valid) (rest : List Char)
    (hr : ∀ c ∈ rest.head?, c.isDigit = false ∧ c ≠ '.') :
    fraction (l.fractionChars ++ rest) = .ok (l.frac, rest) := by
  unfold Literal.fractionChars
  cases hf : l.frac with
  | nil =>
    cases rest with
    | nil => rfl
    | cons c cs =>
      have hc : c ≠ '.' := (hr c rfl).2
      simp only [List.nil_append]
      unfold fraction
      split
      · rename_i heq
        exact absurd (List.cons.inj heq).1 hc
      · rfl
  | cons d ds =>
    have hds := h.frac_digits
    rw [hf] at hds
    exact digits_append (List.cons_ne_nil d ds) hds fun c hc => (hr c hc).1

theorem exponent?_append (l : Literal) (rest : List Char)
    (hr : ∀ c ∈ rest.head?, c.isDigit = false ∧ c ≠ 'e' ∧ c ≠ 'E') :
    exponent? (l.exponentChars ++ rest) = .ok (l.exponent, rest) := by
  unfold Literal.exponentChars
  cases he : l.exponent with
  | none =>
    cases rest with
    | nil => rfl
    | cons c cs =>
      have hc : ¬(c = 'e' ∨ c = 'E') := not_or.mpr (hr c rfl).2
      simp [exponent?, hc]
  | some e =>
    have hd : digits (Number.digits e.natAbs ++ rest) = .ok (Number.digits e.natAbs, rest) :=
      digits_append (digits_ne_nil _) (fun c h => isDigit_of_mem_digits h) fun c hc => (hr c hc).1
    dsimp only
    by_cases h : e < 0
    · have hv : -(e.natAbs : Int) = e := by omega
      generalize e.natAbs = n at hd hv ⊢
      simp [exponent?, h, hd, digitsValue_digits, hv, bind, Except.bind, pure, Except.pure]
    · have hv : (e.natAbs : Int) = e := by omega
      generalize e.natAbs = n at hd hv ⊢
      simp [exponent?, h, hd, digitsValue_digits, hv, bind, Except.bind, pure, Except.pure]

theorem head_exponentChars (l : Literal) {rest : List Char} (hr : Literal.Stops rest) :
    ∀ c ∈ (l.exponentChars ++ rest).head?, c.isDigit = false ∧ c ≠ '.' := by
  unfold Literal.exponentChars
  cases l.exponent with
  | none => exact fun c hc => ⟨(hr c hc).1, (hr c hc).2.1⟩
  | some e =>
    intro c hc
    cases hc
    decide

theorem head_fractionChars (l : Literal) (rest : List Char)
    (hr : ∀ c ∈ rest.head?, c.isDigit = false) :
    ∀ c ∈ (l.fractionChars ++ rest).head?, c.isDigit = false := by
  unfold Literal.fractionChars
  cases l.frac with
  | nil => exact hr
  | cons d ds =>
    intro c hc
    cases hc
    decide

theorem wholeDigits_append {ds rest : List Char} (hne : ds ≠ [])
    (hds : ∀ c ∈ ds, c.isDigit = true) (hr : ∀ c ∈ rest.head?, c.isDigit = false) :
    wholeDigits (ds ++ rest) =
      if Literal.padded ds then .error .malformed else .ok (ds, rest) := by
  unfold wholeDigits
  rw [digits_append hne hds hr]
  simp only [bind, Except.bind]
  split
  · rfl
  · rename_i hlead
    have hp : Literal.padded ds = false := by
      unfold Literal.padded
      split
      · exact (hlead _ _ rfl).elim
      · rfl
    rw [hp]
    rfl

/-- A number after its sign. -/
theorem number_of_unsigned (negative : Bool) {cs : List Char}
    (h : negative = false → ∀ c ∈ cs.head?, c ≠ '-') :
    number ((if negative then ['-'] else []) ++ cs) = (do
      let (whole, cs) ← wholeDigits cs
      let (frac, cs) ← fraction cs
      let (e, cs) ← exponent? cs
      match assemble? negative whole frac e with
      | some n => return (n, cs)
      | none => .error .malformed) := by
  cases negative with
  | true => rfl
  | false =>
    cases cs with
    | nil => rfl
    | cons c rest =>
      have hc : c ≠ '-' := h rfl c rfl
      unfold number
      simp only [Bool.false_eq_true, if_false, List.nil_append]
      split
      · rename_i hcons
        exact absurd (List.cons.inj hcons).1 hc
      · rfl

/-- The reader finds in the text of a literal the number that it stands for, and leaves what
follows. -/
theorem number_append {l : Literal} (h : l.Valid) {rest : List Char} (hr : Literal.Stops rest) :
    (number (l.chars ++ rest)).toOption = l.value?.map (·, rest) := by
  have hexp := exponent?_append l rest fun c hc => ⟨(hr c hc).1, (hr c hc).2.2⟩
  have hfrac := fraction_append h (l.exponentChars ++ rest) (head_exponentChars l hr)
  have hhead := head_fractionChars l (l.exponentChars ++ rest) fun c hc =>
    (head_exponentChars l hr c hc).1
  have hwhole := wholeDigits_append h.whole_ne_nil h.whole_digits hhead
  have hsign : l.negative = false →
      ∀ c ∈ (l.whole ++ (l.fractionChars ++ (l.exponentChars ++ rest))).head?, c ≠ '-' := by
    rintro - c hc rfl
    obtain ⟨d, ds, hd⟩ := List.exists_cons_of_ne_nil h.whole_ne_nil
    rw [hd] at hc
    cases hc
    have := h.whole_digits '-' (by rw [hd]; exact List.mem_cons_self)
    revert this
    decide
  have hchars : l.chars ++ rest = (if l.negative then ['-'] else []) ++
      (l.whole ++ (l.fractionChars ++ (l.exponentChars ++ rest))) := by
    simp [Literal.chars, Literal.signChars, Literal.magnitudeChars]
  rw [hchars, number_of_unsigned l.negative hsign, hwhole]
  unfold Literal.value?
  cases Literal.padded l.whole with
  | true => rfl
  | false =>
    simp only [Bool.false_eq_true, if_false, bind, Except.bind, hfrac, hexp]
    cases assemble? l.negative l.whole l.frac l.exponent <;> rfl

/-- The reader finds in the text of a number what the number is reread as. -/
theorem number_chars (n : Number) {rest : List Char} (hr : Literal.Stops rest) :
    (number (n.chars ++ rest)).toOption = n.reread.map (·, rest) := by
  rw [← chars_literal]
  exact number_append (valid_literal n) hr

end Json

namespace Number

/-- The digits of a number other than zero do not begin with a zero. -/
theorem head?_digits_ne_zero {n : Nat} (h : 0 < n) : (digits n).head? ≠ some '0' := by
  induction n using Nat.strongRecOn with
  | ind n ih =>
    unfold digits at ih ⊢
    rw [Nat.toDigits_eq_if (by decide)]
    by_cases hn : n < 10
    · rw [if_pos hn, List.head?_cons, ne_eq, Option.some.injEq, Nat.digitChar_eq_zero]
      omega
    · obtain ⟨c, cs, hcs⟩ := List.exists_cons_of_ne_nil (Nat.toDigits_ne_nil (n := n / 10) (b := 10))
      have hlead := ih (n / 10) (by omega) (by omega)
      rw [hcs] at hlead
      rw [if_neg hn, hcs]
      exact hlead

theorem padded_of_head? {ds : List Char} (h : ds.head? ≠ some '0') : Literal.padded ds = false := by
  unfold Literal.padded
  split
  · exact absurd rfl h
  · rfl

theorem padded_digits (n : Nat) : Literal.padded (digits n) = false := by
  rcases Nat.eq_zero_or_pos n with rfl | h
  · rfl
  · exact padded_of_head? (head?_digits_ne_zero h)

/-- An integer of 64 bits, signed or unsigned, is reread as itself. -/
theorem reread_int {i : Int} (h : Fits i) : reread (.int i) = some (.int i) := by
  have hv : (if i < 0 then -(i.natAbs : Int) else i.natAbs) = i := by
    split <;> omega
  have hz : ¬(i < 0 ∧ i.natAbs = 0) := by omega
  unfold reread Literal.value? literal Json.assemble? Json.wholeNumber?
  simp only [padded_digits, digitsValue_digits, decide_eq_true_eq, hv, List.isEmpty_nil,
    Option.isNone_none, Bool.and_self, Bool.false_eq_true, if_false, if_true]
  rw [if_pos ⟨h, hz⟩]

end Number

end ScriptLink
