import Mathlib.Data.List.TakeWhile
import ScriptLink.Proofs.Json.Grammar
import ScriptLink.Proofs.Json.Reading

/-!
# ScriptLink.Proofs.Json.Tokens — how strings and numbers are read

* `Reads Stop p G`: the step `p` takes exactly the texts of `G`, whatever follows that satisfies `Stop`.
* `reads_string` and `reads_number` say so of strings and of numbers, where only a number minds what follows
  it. A number that is beyond the range of binary64 is no token.
* `Reads.skip`: white space before a token is passed over.
-/

namespace ScriptLink.Json

open ScriptLink.Number (Literal)

/-- The step takes exactly the texts of `G`: what it takes is one, and it takes one of them wholly where
something comes after it that satisfies `Stop`. -/
structure Reads (Stop : List Char → Prop) (p : Step α) (G : List Char → α → Prop) : Prop where
  sound : ∀ {cs rest a}, p cs = .ok (a, rest) → ∃ taken, cs = taken ++ rest ∧ G taken a
  complete : ∀ {taken rest a}, G taken a → Stop rest → p (taken ++ rest) = .ok (a, rest)

/-- Anything may follow. -/
def Any (_ : List Char) : Prop := True

/-! ## White space -/

theorem skipSpace_spaces {space : List Char} (h : Spaces space) (cs : List Char) :
    skipSpace (space ++ cs) = skipSpace cs :=
  List.dropWhile_append_of_pos h

/-- White space is all that is passed over. -/
theorem exists_skipSpace (cs : List Char) : ∃ space, Spaces space ∧ cs = space ++ skipSpace cs :=
  ⟨cs.takeWhile isSpace, fun _ hd => List.mem_takeWhile_imp hd,
    (List.takeWhile_append_dropWhile (p := isSpace) (l := cs)).symm⟩

/-- What white space is passed over, up to a character that is none. -/
theorem of_skipSpace {cs rest : List Char} {c : Char} (h : skipSpace cs = c :: rest) :
    isSpace c = false ∧ ∃ space, Spaces space ∧ cs = space ++ c :: rest := by
  refine ⟨?_, ?_⟩
  · have hc := List.head?_dropWhile_not isSpace cs
    have hd : cs.dropWhile isSpace = c :: rest := h
    rw [hd] at hc
    simpa using hc
  · obtain ⟨space, hs, hcs⟩ := exists_skipSpace cs
    exact ⟨space, hs, h ▸ hcs⟩

/-- White space does not carry a number further. -/
theorem stops_space {d : Char} (h : isSpace d = true) (later : List Char) :
    Literal.Stops (d :: later) := by
  refine Literal.stops_cons _ ?_
  simp only [isSpace, Bool.or_eq_true, beq_iff_eq] at h
  rcases h with ((rfl | rfl) | rfl) | rfl <;> decide

/-- Neither does a separator after it. -/
theorem stops_spaces {space : List Char} (h : Spaces space) {c : Char}
    (hc : c.isDigit = false ∧ c ≠ '.' ∧ c ≠ 'e' ∧ c ≠ 'E') (later : List Char) :
    Literal.Stops (space ++ c :: later) := by
  cases space with
  | nil => exact Literal.stops_cons later hc
  | cons d ds => exact stops_space (h d List.mem_cons_self) _

/-- A step that passes over white space first. -/
theorem Reads.skip {Stop : List Char → Prop} {p : Step α} {G : List Char → α → Prop}
    (hp : Reads Stop p G) (hhead : ∀ {cs a}, G cs a → ∃ c more, cs = c :: more ∧ isSpace c = false) :
    Reads Stop (fun cs => p (skipSpace cs)) (Led G) := by
  refine ⟨fun {cs _ _} h => ?_, fun hled hstop => ?_⟩
  · obtain ⟨taken, hcs, hG⟩ := hp.sound h
    obtain ⟨space, hs, hall⟩ := exists_skipSpace cs
    exact ⟨space ++ taken, by rw [List.append_assoc, ← hcs, ← hall], .space hs hG⟩
  · obtain ⟨hs, hG⟩ := hled
    obtain ⟨c, more, rfl, hc⟩ := hhead hG
    rw [List.append_assoc, skipSpace_spaces hs, List.cons_append, skipSpace_cons hc]
    exact hp.complete hG hstop

/-! ## Strings -/

theorem push_eq_ok {c : Char} {x : Except ReadError (Taken (List Char))} {s rest : List Char} :
    push c x = .ok (s, rest) ↔ ∃ t, x = .ok (t, rest) ∧ s = c :: t := by
  cases x with
  | error e => simp [push]
  | ok p =>
    obtain ⟨t, r⟩ := p
    simp [push, eq_comm, and_comm]

theorem hexDigit_of_hexValue? : ∀ k < 128, ∀ n ∈ hexValue? (Char.ofNat k), HexDigit (Char.ofNat k) n := by
  decide +kernel

theorem hexValue?_digitChar : ∀ n < 16, hexValue? (Nat.digitChar n) = some n ∧
    hexValue? (Nat.digitChar n).toUpper = some n := by
  decide +kernel

theorem hexValue?_eq_some_iff {c : Char} {n : Nat} : hexValue? c = some n ↔ HexDigit c n := by
  refine ⟨fun h => ?_, ?_⟩
  · have hascii : c.toNat < 128 := by
      simp only [hexValue?, Char.le_def, UInt32.le_iff_toNat_le] at h
      have hc : c.val.toNat = c.toNat := rfl
      rw [hc] at h
      split at h
      · rename_i hr
        exact hr.2.trans_lt (by decide)
      split at h
      · rename_i hr
        exact hr.2.trans_lt (by decide)
      split at h
      · rename_i hr
        exact hr.2.trans_lt (by decide)
      · cases h
    have hall := hexDigit_of_hexValue? c.toNat hascii
    rw [Char.ofNat_toNat] at hall
    exact hall n h
  · rintro ⟨hn, rfl | rfl⟩
    · exact (hexValue?_digitChar n hn).1
    · exact (hexValue?_digitChar n hn).2

theorem hexWord?_eq_some_iff {a b c d : Char} {n : Nat} :
    hexWord? a b c d = some n ↔ HexWord [a, b, c, d] n := by
  refine ⟨fun h => ?_, ?_⟩
  · simp only [hexWord?, bind, pure, Option.bind_eq_some_iff, Option.some.injEq] at h
    obtain ⟨i, hi, j, hj, k, hk, l, hl, rfl⟩ := h
    exact .digits (hexValue?_eq_some_iff.mp hi) (hexValue?_eq_some_iff.mp hj)
      (hexValue?_eq_some_iff.mp hk) (hexValue?_eq_some_iff.mp hl)
  · rintro ⟨hi, hj, hk, hl⟩
    unfold hexWord?
    rw [hexValue?_eq_some_iff.mpr hi, hexValue?_eq_some_iff.mpr hj, hexValue?_eq_some_iff.mpr hk,
      hexValue?_eq_some_iff.mpr hl]
    rfl

theorem escaped?_eq_some_iff {c e : Char} : escaped? c = some e ↔ (c, e) ∈ shortEscapes := by
  refine ⟨fun h => ?_, fun h => ?_⟩
  · unfold escaped? at h
    split at h
    all_goals cases h
    all_goals decide
  · simp only [shortEscapes, List.mem_cons, Prod.mk.injEq, List.not_mem_nil, or_false] at h
    obtain ⟨rfl, rfl⟩ | ⟨rfl, rfl⟩ | ⟨rfl, rfl⟩ | ⟨rfl, rfl⟩ | ⟨rfl, rfl⟩ | ⟨rfl, rfl⟩ | ⟨rfl, rfl⟩ |
      ⟨rfl, rfl⟩ := h <;> rfl

theorem isLead_iff {n : Nat} : isLead n = true ↔ 0xD800 ≤ n ∧ n < 0xDC00 := by
  simp [isLead]

theorem isTrail_iff {n : Nat} : isTrail n = true ↔ 0xDC00 ≤ n ∧ n < 0xE000 := by
  simp [isTrail]

theorem HexWord.exists_eq {ds : List Char} {n : Nat} (h : HexWord ds n) :
    ∃ a b c d, ds = [a, b, c, d] ∧ hexWord? a b c d = some n := by
  cases h with
  | digits hi hj hk hl => exact ⟨_, _, _, _, rfl, hexWord?_eq_some_iff.mpr (.digits hi hj hk hl)⟩

/-- A character of a string is read as it is spelled, in front of the others. -/
theorem stringChars_spelled {front : List Char} {c : Char} (h : Spelled front c) (more : List Char) :
    stringChars (front ++ more) = push c (stringChars more) := by
  cases h with
  | plain hc hquote hslash => simp [stringChars, hslash, Nat.not_lt.mpr hc]
  | @short letter _ he =>
    have hu : letter ≠ 'u' := by
      rintro rfl
      simp [shortEscapes] at he
    simp [stringChars, hu, escaped?_eq_some_iff.mpr he]
  | @word ds n hw hn =>
    obtain ⟨a, b, c, d, rfl, hword⟩ := hw.exists_eq
    have hlead : isLead n = false := by
      rw [← Bool.not_eq_true, isLead_iff]
      omega
    have htrail : isTrail n = false := by
      rw [← Bool.not_eq_true, isTrail_iff]
      omega
    simp [stringChars, hword, hlead, htrail]
  | pair hm hm1 hm2 hn hn1 hn2 =>
    obtain ⟨a, b, c, d, rfl, hlead⟩ := hm.exists_eq
    obtain ⟨e, f, g, h, rfl, htrail⟩ := hn.exists_eq
    simp [stringChars, hlead, htrail, isLead_iff.mpr ⟨hm1, hm2⟩, isTrail_iff.mpr ⟨hn1, hn2⟩, pairChar]

/-- One character that is read, as it is spelled in front of the others. -/
theorem Spelled.append_of_push {front cs rest s : List Char} {c : Char} (hfront : Spelled front c)
    (ih : ∀ ⦃t⦄, stringChars cs = .ok (t, rest) → ∃ inner, cs = inner ++ '"' :: rest ∧ Chars inner t)
    (h : push c (stringChars cs) = .ok (s, rest)) :
    ∃ inner, front ++ cs = inner ++ '"' :: rest ∧ Chars inner s := by
  obtain ⟨t, ht, rfl⟩ := push_eq_ok.mp h
  obtain ⟨inner, rfl, hinner⟩ := ih ht
  exact ⟨front ++ inner, (List.append_assoc _ _ _).symm, .cons hfront hinner⟩

theorem chars_of_stringChars {cs rest s : List Char} (h : stringChars cs = .ok (s, rest)) :
    ∃ inner, cs = inner ++ '"' :: rest ∧ Chars inner s := by
  fun_induction stringChars cs generalizing s with
  | case2 later =>
    cases h
    exact ⟨[], rfl, .nil⟩
  | case5 a b c d n hn hlead e f g k more m hm htrail ih =>
    obtain ⟨hlead1, hlead2⟩ := isLead_iff.mp hlead
    obtain ⟨htrail1, htrail2⟩ := isTrail_iff.mp htrail
    exact (Spelled.pair (hexWord?_eq_some_iff.mp hn) hlead1 hlead2 (hexWord?_eq_some_iff.mp hm) htrail1
      htrail2).append_of_push (fun _ ht => ih ht) h
  | case9 a b c d more n hn hlead htrail ih =>
    rw [isLead_iff] at hlead
    rw [isTrail_iff] at htrail
    exact (Spelled.word (hexWord?_eq_some_iff.mp hn) (by omega)).append_of_push (fun _ ht => ih ht) h
  | case13 c more hu hu' e he ih =>
    exact (Spelled.short (escaped?_eq_some_iff.mp he)).append_of_push (fun _ ht => ih ht) h
  | case15 c more hquote hu hu' hend hescape hspace ih =>
    have hslash : c ≠ '\\' := by
      rintro rfl
      cases hmore : more with
      | nil => exact hend rfl hmore
      | cons d ds => exact hescape d ds rfl hmore
    exact (Spelled.plain (Nat.not_lt.mp hspace) hquote hslash).append_of_push (fun _ ht => ih ht) h
  | _ => cases h

/-- A string is read up to its closing quotation mark. -/
theorem reads_string : Reads Any string Unquoted := by
  refine ⟨fun h => ?_, fun {_ rest _} hs _ => ?_⟩
  · obtain ⟨⟨s, rest⟩, hs, h⟩ := bind_eq_ok.mp h
    cases h
    obtain ⟨inner, rfl, hinner⟩ := chars_of_stringChars hs
    exact ⟨inner ++ ['"'], by simp, .chars hinner⟩
  · obtain ⟨hinner⟩ := hs
    refine bind_eq_ok.mpr ⟨(_, rest), ?_, rfl⟩
    induction hinner with
    | nil => simp [stringChars]
    | cons hfront _ ih =>
      rw [List.append_assoc, List.append_assoc, stringChars_spelled hfront, ← List.append_assoc, ih]
      rfl

/-! ## Numbers -/

theorem forall_head_nil {P : Char → Prop} : ∀ c ∈ ([] : List Char).head?, P c := by
  intro c hc
  cases hc

/-- The first character of two texts is that of the one or of the other. -/
theorem forall_head_append {P : Char → Prop} {cs ds : List Char} (hc : ∀ c ∈ cs.head?, P c)
    (hd : ∀ c ∈ ds.head?, P c) : ∀ c ∈ (cs ++ ds).head?, P c := by
  cases cs with
  | nil => exact hd
  | cons c more => exact hc

theorem of_digits {cs ds rest : List Char} (h : digits cs = .ok (ds, rest)) :
    Digits ds ∧ cs = ds ++ rest := by
  unfold digits at h
  dsimp only at h
  split at h
  · cases h
  · rename_i hne
    cases h
    refine ⟨⟨by simpa using hne, fun c hc => List.mem_takeWhile_imp hc⟩, ?_⟩
    exact List.takeWhile_append_dropWhile.symm

theorem reads_wholeDigits : Reads (fun rest => ∀ c ∈ rest.head?, c.isDigit = false) wholeDigits
    (fun cs ds => cs = ds ∧ Digits ds ∧ Literal.padded ds = false) := by
  refine ⟨fun h => ?_, ?_⟩
  · obtain ⟨⟨ds, rest⟩, hds, h⟩ := bind_eq_ok.mp h
    dsimp only at h
    split at h
    · cases h
    · rename_i hlead
      cases h
      obtain ⟨hdigits, hcs⟩ := of_digits hds
      refine ⟨_, hcs, rfl, hdigits, ?_⟩
      unfold Literal.padded
      split
      · exact (hlead _ _ rfl).elim
      · rfl
  · rintro ds rest _ ⟨rfl, ⟨hne, hall⟩, hlead⟩ hrest
    rw [wholeDigits_append hne hall hrest, hlead]
    rfl

theorem reads_fraction : Reads (fun rest => ∀ c ∈ rest.head?, c.isDigit = false ∧ c ≠ '.') fraction
    Fraction := by
  refine ⟨fun h => ?_, fun hf hrest => ?_⟩
  · unfold fraction at h
    split at h
    · obtain ⟨hdigits, rfl⟩ := of_digits h
      exact ⟨_, rfl, .point hdigits⟩
    · cases h
      exact ⟨[], rfl, .none⟩
  · cases hf with
    | none =>
      rw [List.nil_append]
      unfold fraction
      split
      · exact absurd rfl (hrest _ rfl).2
      · rfl
    | point hdigits => exact digits_append hdigits.1 hdigits.2 fun c hc => (hrest c hc).1

theorem reads_exponent? :
    Reads (fun rest => ∀ c ∈ rest.head?, c.isDigit = false ∧ c ≠ 'e' ∧ c ≠ 'E') exponent? Exponent := by
  refine ⟨fun h => ?_, fun {_ rest _} he hrest => ?_⟩
  · unfold exponent? at h
    split at h
    · split at h
      · rename_i hletter
        split at h
        all_goals
          obtain ⟨⟨ds, cs⟩, hds, h⟩ := bind_eq_ok.mp h
          cases h
          obtain ⟨hdigits, rfl⟩ := of_digits hds
        · exact ⟨_, rfl, .minus hletter hdigits⟩
        · exact ⟨_, rfl, .plus hletter hdigits⟩
        · exact ⟨_, rfl, .bare hletter hdigits⟩
      · cases h
        exact ⟨[], rfl, .none⟩
    · cases h
      exact ⟨[], rfl, .none⟩
  · have hdigits {ds : List Char} (h : Digits ds) : digits (ds ++ rest) = .ok (ds, rest) :=
      digits_append h.1 h.2 fun c hc => (hrest c hc).1
    cases he with
    | none => exact exponent?_append ⟨false, [], [], none⟩ rest hrest
    | @bare e ds hletter h =>
      have hd := hdigits h
      obtain ⟨d, es, rfl⟩ := List.exists_cons_of_ne_nil h.1
      have hdigit := h.2 d List.mem_cons_self
      have hm : d ≠ '-' := by rintro rfl; exact absurd hdigit (by decide)
      have hp : d ≠ '+' := by rintro rfl; exact absurd hdigit (by decide)
      rw [List.cons_append] at hd
      simp [exponent?, hletter, hm, hp, hd, bind, Except.bind, pure, Except.pure]
    | plus hletter h => simp [exponent?, hletter, hdigits h, bind, Except.bind, pure, Except.pure]
    | minus hletter h => simp [exponent?, hletter, hdigits h, bind, Except.bind, pure, Except.pure]

theorem assemble?_eq (l : Literal) : assemble? l.negative l.whole l.frac l.exponent =
    if l.Integral then some (.int l.integer)
    else (Binary64.ofDecimal? l.negative (digitsValue (l.whole ++ l.frac))
      (l.exponent.getD 0 - l.frac.length)).map .real := by
  unfold assemble?
  by_cases hw : l.frac = [] ∧ l.exponent = none
  · have hz : l.negative = true ∧ l.integer = 0 ↔ l.negative = true ∧ digitsValue l.whole = 0 :=
      and_congr_right fun h => by simp [Literal.integer, h]
    have hint : l.Integral ↔ Number.Fits l.integer ∧ ¬(l.negative = true ∧ digitsValue l.whole = 0) := by
      simp [Literal.Integral, hw, hz]
    simp only [hw, hint, wholeNumber?, List.append_nil]
    rfl
  · have hw' : (l.frac.isEmpty && l.exponent.isNone) = false := by
      rw [← Bool.not_eq_true, Bool.and_eq_true, List.isEmpty_iff, Option.isNone_iff_eq_none]
      exact hw
    rw [hw', if_neg Bool.false_ne_true, if_neg fun h : l.Integral => hw ⟨h.1, h.2.1⟩]

theorem assemble?_eq_some_iff {l : Literal} {n : Number} :
    assemble? l.negative l.whole l.frac l.exponent = some n ↔ l.Denotes n := by
  rw [assemble?_eq]
  split
  · rename_i h
    refine ⟨fun hn => ?_, fun hn => ?_⟩
    · obtain rfl := Option.some.inj hn
      exact .integer h
    · cases hn with
      | integer => rfl
      | real hnot => exact absurd h hnot
  · rename_i h
    rw [Option.map_eq_some_iff]
    refine ⟨?_, fun hn => ?_⟩
    · rintro ⟨x, hx, rfl⟩
      obtain ⟨hsign, hcanonical, hrounds⟩ := Binary64.ofDecimal?_eq_some_iff.mp hx
      exact .real h hcanonical hsign hrounds
    · cases hn with
      | integer hint => exact absurd hint h
      | real _ hcanonical hsign hrounds =>
        exact ⟨_, Binary64.ofDecimal?_eq_some_iff.mpr ⟨hsign, hcanonical, hrounds⟩, rfl⟩

theorem Fraction.head {point frac : List Char} (h : Fraction point frac) : ∀ c ∈ point.head?, c = '.' := by
  cases h with
  | none => exact forall_head_nil
  | point => exact fun c hc => (Option.some.inj hc).symm

theorem Exponent.head {power : List Char} {e : Option Int} (h : Exponent power e) :
    ∀ c ∈ power.head?, c = 'e' ∨ c = 'E' := by
  cases h with
  | none => exact forall_head_nil
  | bare hletter | plus hletter | minus hletter => exact fun c hc => Option.some.inj hc ▸ hletter

/-- What follows a fraction begins with no digit and no point. -/
theorem Exponent.follow {power rest : List Char} {e : Option Int} (h : Exponent power e)
    (hrest : Literal.Stops rest) : ∀ c ∈ (power ++ rest).head?, c.isDigit = false ∧ c ≠ '.' := by
  refine forall_head_append (fun c hc => ?_) fun c hc => ⟨(hrest c hc).1, (hrest c hc).2.1⟩
  rcases h.head c hc with rfl | rfl <;> decide

/-- What follows the digits before the point begins with no digit. -/
theorem Fraction.follow {point frac rest : List Char} (h : Fraction point frac)
    (hrest : ∀ c ∈ rest.head?, c.isDigit = false ∧ c ≠ '.') :
    ∀ c ∈ (point ++ rest).head?, c.isDigit = false := by
  refine forall_head_append (fun c hc => ?_) fun c hc => (hrest c hc).1
  rw [h.head c hc]
  decide

theorem Digits.no_sign {ds : List Char} (h : Digits ds) (rest : List Char) :
    ∀ c ∈ (ds ++ rest).head?, c ≠ '-' := by
  obtain ⟨d, more, rfl⟩ := List.exists_cons_of_ne_nil h.1
  rintro c hc rfl
  cases hc
  exact absurd (h.2 '-' List.mem_cons_self) (by decide)

/-- A text is a minus sign and the rest, or has none. -/
theorem exists_sign (cs : List Char) : ∃ (negative : Bool) (unsigned : List Char),
    cs = (if negative then ['-'] else []) ++ unsigned ∧
      (negative = false → ∀ c ∈ unsigned.head?, c ≠ '-') := by
  cases cs with
  | nil => exact ⟨false, [], rfl, fun _ => forall_head_nil⟩
  | cons c more =>
    by_cases hc : c = '-'
    · exact ⟨true, more, by rw [hc]; rfl, fun h => Bool.noConfusion h⟩
    · exact ⟨false, c :: more, rfl, fun _ d hd => Option.some.inj hd ▸ hc⟩

/-- A number is read up to its last digit, unless what follows carries it further. -/
theorem reads_number : Reads Literal.Stops number Numeral := by
  refine ⟨fun {cs rest n} h => ?_, fun {_ rest n} hn hstop => ?_⟩
  · obtain ⟨negative, unsigned, rfl, hsign⟩ := exists_sign cs
    rw [number_of_unsigned negative hsign] at h
    obtain ⟨⟨whole, cs₁⟩, hw, h⟩ := bind_eq_ok.mp h
    obtain ⟨⟨frac, cs₂⟩, hf, h⟩ := bind_eq_ok.mp h
    obtain ⟨⟨e, cs₃⟩, he, h⟩ := bind_eq_ok.mp h
    dsimp only at hf he h
    split at h
    · rename_i hvalue
      cases h
      obtain ⟨_, rfl, rfl, hdigits, hlead⟩ := reads_wholeDigits.sound hw
      obtain ⟨point, rfl, hpoint⟩ := reads_fraction.sound hf
      obtain ⟨power, rfl, hpower⟩ := reads_exponent?.sound he
      have hdenotes : Literal.Denotes ⟨negative, _, frac, e⟩ n := assemble?_eq_some_iff.mp hvalue
      refine ⟨_, ?_, .parts hdigits hlead hpoint hpower hdenotes⟩
      simp [Literal.signChars]
    · cases h
  · obtain ⟨hdigits, hlead, hpoint, hpower, hdenotes⟩ := hn
    rename_i l point power
    have hpowerHead := hpower.follow hstop
    have hpointHead := hpoint.follow hpowerHead
    have hwhole := reads_wholeDigits.complete ⟨rfl, hdigits, hlead⟩ hpointHead
    have hfrac := reads_fraction.complete hpoint hpowerHead
    have hexp := reads_exponent?.complete hpower fun d hd => ⟨(hstop d hd).1, (hstop d hd).2.2⟩
    have hjoin : l.signChars ++ (l.whole ++ (point ++ power)) ++ rest =
        (if l.negative then ['-'] else []) ++ (l.whole ++ (point ++ (power ++ rest))) := by
      simp [Literal.signChars]
    rw [hjoin, number_of_unsigned l.negative fun _ => hdigits.no_sign _, hwhole]
    simp only [bind, Except.bind, hfrac, hexp, assemble?_eq_some_iff.mpr hdenotes]
    rfl

end ScriptLink.Json
