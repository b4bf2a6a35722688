import ScriptLink.Proofs.Json.Acceptance
import ScriptLink.Proofs.Text.Trim

/-!
# ScriptLink.Proofs.Json.Locality — a reader looks no further than it takes

* `Local Stop p`: whatever the step `p` reads, it takes characters of which the last is no white space,
  and it reads the same where anything else comes after them that satisfies `Stop`.
* `Written.last`: the text of a value ends in something other than white space, so values are read so
  (`local_value`), where only a number minds what follows it.
* `readChars_strip`: white space after a value can be left out of its text.
-/

namespace ScriptLink.Json

open ScriptLink.Number (Literal)

/-- A step that looks no further than it takes, if what follows satisfies `Stop`; the last character
that it takes is no white space. -/
def Local (Stop : List Char → Prop) (p : Step α) : Prop :=
  ∀ ⦃cs rest : List Char⦄ ⦃a : α⦄, p cs = .ok (a, rest) → ∃ taken c, isSpace c = false ∧
    cs = taken ++ c :: rest ∧ ∀ later, Stop later → p (taken ++ c :: later) = .ok (a, later)

/-- A step looks no further if what it takes never ends in white space. -/
theorem Reads.isLocal {Stop : List Char → Prop} {p : Step α} {G : List Char → α → Prop}
    (hp : Reads Stop p G) (hlast : ∀ {cs a}, G cs a → ∃ front c, cs = front ++ [c] ∧ isSpace c = false) :
    Local Stop p := by
  intro cs rest a h
  obtain ⟨taken, rfl, hG⟩ := hp.sound h
  obtain ⟨front, c, rfl, hc⟩ := hlast hG
  refine ⟨front, c, hc, by simp, fun later hl => ?_⟩
  rw [List.append_cons]
  exact hp.complete hG hl

/-! ## Last characters -/

/-- If there is a last character, it is a digit. -/
def EndsInDigit (cs : List Char) : Prop := ∀ c ∈ cs.getLast?, c.isDigit = true

theorem endsInDigit_nil : EndsInDigit [] := by
  intro c hc
  cases hc

theorem EndsInDigit.append {cs ds : List Char} (hc : EndsInDigit cs) (hd : EndsInDigit ds) :
    EndsInDigit (cs ++ ds) := by
  intro c h
  rw [List.getLast?_append, Option.mem_def, Option.or_eq_some_iff] at h
  rcases h with h | ⟨-, h⟩
  · exact hd c h
  · exact hc c h

/-- Whatever stands before digits, the last of them is a digit. -/
theorem Digits.ends {ds : List Char} (h : Digits ds) (front : List Char) : EndsInDigit (front ++ ds) := by
  intro c hc
  rw [List.getLast?_append_of_ne_nil _ h.1] at hc
  exact h.2 c (List.mem_of_mem_getLast? hc)

theorem Fraction.ends {point frac : List Char} (h : Fraction point frac) : EndsInDigit point := by
  cases h with
  | none => exact endsInDigit_nil
  | point hdigits => exact hdigits.ends ['.']

theorem Exponent.ends {power : List Char} {e : Option Int} (h : Exponent power e) : EndsInDigit power := by
  cases h with
  | none => exact endsInDigit_nil
  | @bare e _ _ hdigits => exact hdigits.ends [e]
  | @plus e _ _ hdigits => exact hdigits.ends [e, '+']
  | @minus e _ _ hdigits => exact hdigits.ends [e, '-']

theorem Numeral.last {cs : List Char} {n : Number} (h : Numeral cs n) :
    ∃ front c, cs = front ++ [c] ∧ isSpace c = false := by
  obtain @⟨l, point, power, _, hdigits, -, hpoint, hpower, -⟩ := h
  have hne : l.whole ++ (point ++ power) ≠ [] := by simp [hdigits.1]
  have hdigit := (hdigits.ends []).append (hpoint.ends.append hpower.ends) _
    (List.getLast?_eq_some_getLast hne)
  refine ⟨l.signChars ++ (l.whole ++ (point ++ power)).dropLast, _, ?_,
    (begins_of_number (.inr hdigit)).space⟩
  rw [List.append_assoc, List.dropLast_append_getLast hne]

theorem scalar_last {cs : List Char} {v : Value} (h : Scalar cs v) :
    ∃ front c, cs = front ++ [c] ∧ isSpace c = false := by
  cases h with
  | null => exact ⟨['n', 'u', 'l'], 'l', rfl, by decide⟩
  | true => exact ⟨['t', 'r', 'u'], 'e', rfl, by decide⟩
  | false => exact ⟨['f', 'a', 'l', 's'], 'e', rfl, by decide⟩
  | string hs =>
    obtain ⟨-⟩ := hs
    exact ⟨'"' :: _, '"', rfl, by decide⟩
  | number hn => exact hn.last

theorem Closed.last {G : List Char → α → Prop} {closing : Char} {cs : List Char} {as : List α}
    (h : Closed G closing cs as) : ∃ front, cs = front ++ [closing] := by
  cases h with
  | none | some => exact ⟨_, rfl⟩

/-- The text of a value does not end in white space. -/
theorem Written.last {depth : Nat} {cs : List Char} {v : Value} (h : Written depth cs v) :
    ∃ front c, cs = front ++ [c] ∧ isSpace c = false := by
  cases depth with
  | zero => exact scalar_last h
  | succ d =>
    obtain hs | ⟨_, _, hinside, rfl, -⟩ | ⟨_, _, hinside, rfl, -⟩ := h
    · exact scalar_last hs
    · obtain ⟨front, rfl⟩ := hinside.last
      exact ⟨'[' :: front, ']', rfl, by decide⟩
    · obtain ⟨front, rfl⟩ := hinside.last
      exact ⟨'\x7b' :: front, '\x7d', rfl, by decide⟩

/-- A value is read by its own characters alone, unless it is a number that what follows carries
further. -/
theorem local_value (depth : Nat) : Local Literal.Stops (value depth) := by
  refine (reads_value depth).isLocal fun hled => ?_
  obtain @⟨space, _, _, -, hw⟩ := hled
  obtain ⟨front, c, rfl, hc⟩ := hw.last
  exact ⟨space ++ front, c, by rw [List.append_assoc], hc⟩

end ScriptLink.Json

namespace ScriptLink.Value

open ScriptLink.Json
open ScriptLink.Number (Literal)

/-- White space after a value can be left out of its text. -/
theorem readChars_strip {p : Char → Bool} (hp : ∀ c, p c = true → isSpace c = true)
    {cs : List Char} {v : Value} (h : readChars cs = .ok v) :
    readChars (Text.stripEndBy p cs) = .ok v := by
  unfold readChars whole at h
  obtain ⟨⟨w, rest⟩, hw, h⟩ := bind_eq_ok.mp h
  simp only [] at h
  split at h
  · rename_i hrest
    cases h
    have hspaces : Spaces rest := by
      rw [List.isEmpty_iff, skipSpace, List.dropWhile_eq_nil_iff] at hrest
      exact hrest
    obtain ⟨taken, c, hc, rfl, hlater⟩ := local_value maxDepth hw
    have hend : Spaces (Text.stripEndBy p rest) := by
      intro d hd
      unfold Text.stripEndBy at hd
      exact hspaces d (List.mem_reverse.mp (List.dropWhile_subset _ (List.mem_reverse.mp hd)))
    have hstops : Literal.Stops (Text.stripEndBy p rest) := by
      cases hs : Text.stripEndBy p rest with
      | nil => exact Literal.stops_nil
      | cons d ds => exact stops_space (hend d (by rw [hs]; exact List.mem_cons_self)) ds
    have hpc : p c = false := Bool.eq_false_iff.mpr fun h => by simp [hp c h] at hc
    have hempty : (skipSpace (Text.stripEndBy p rest)).isEmpty = true := by
      rw [List.isEmpty_iff, skipSpace, List.dropWhile_eq_nil_iff]
      exact hend
    rw [Text.stripEndBy_append_cons hpc]
    unfold readChars whole
    rw [hlater _ hstops]
    show (if (skipSpace (Text.stripEndBy p rest)).isEmpty = true then _ else _) = _
    rw [if_pos hempty]
    rfl
  · cases h

end ScriptLink.Value
