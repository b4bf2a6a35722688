import ScriptLink.Url.File

/-!
# ScriptLink.Proofs.Url.Host — the characters of a host

`forall_mem_serialize?`: whether a host is a domain or an address, no character of its written form is blank or ends
a segment, so that it is read to its end where it stands in a URL.
-/

namespace ScriptLink.Url.Host

/-- A character that is not blank and ends no segment. -/
def Solid (c : Char) : Prop := 0x20 < c.toNat ∧ FileUrl.endsSegment c = false

instance (c : Char) : Decidable (Solid c) := inferInstanceAs (Decidable (_ ∧ _))

theorem mem_intercalate {sep x : Char} {ls : List (List Char)} (h : x ∈ [sep].intercalate ls) :
    x = sep ∨ ∃ l ∈ ls, x ∈ l := by
  induction ls with
  | nil => cases h
  | cons a ls ih =>
    cases ls with
    | nil =>
      rw [List.intercalate_singleton] at h
      exact .inr ⟨a, List.mem_cons_self, h⟩
    | cons b ls =>
      rw [List.intercalate_cons_cons, List.mem_append, List.mem_append, List.mem_singleton] at h
      rcases h with (h | h) | h
      · exact .inr ⟨a, List.mem_cons_self, h⟩
      · exact .inl h
      · rcases ih h with h | ⟨l, hl, h⟩
        · exact .inl h
        · exact .inr ⟨l, List.mem_cons_of_mem a hl, h⟩

theorem exists_digitChar {b : Nat} (hb : 1 < b) {n : Nat} {c : Char} (h : c ∈ Nat.toDigits b n) :
    ∃ k < b, c = Nat.digitChar k := by
  induction n using Nat.strongRecOn with
  | ind n ih =>
    rw [Nat.toDigits_eq_if hb] at h
    split at h
    case isTrue hn => exact ⟨n, hn, List.mem_singleton.mp h⟩
    case isFalse hn =>
      rcases List.mem_append.mp h with h | h
      · exact ih (n / b) (Nat.div_lt_self (by omega) hb) h
      · exact ⟨n % b, Nat.mod_lt n (by omega), List.mem_singleton.mp h⟩

theorem solid_of_mem_toDigits {b : Nat} (hb : 1 < b) (hle : b ≤ 16) {n : Nat} {c : Char}
    (h : c ∈ Nat.toDigits b n) : Solid c := by
  obtain ⟨k, hk, rfl⟩ := exists_digitChar hb h
  exact (show ∀ k < 16, Solid (Nat.digitChar k) by decide) k (by omega)

/-- Numbers are solid, and so are they with solid characters between them. -/
theorem solid_of_mem_numbers {sep : Char} (hsep : Solid sep) {b : Nat} (hb : 1 < b) (hle : b ≤ 16) {ns : List Nat}
    {c : Char} (h : c ∈ [sep].intercalate (ns.map (Nat.toDigits b))) : Solid c := by
  rcases mem_intercalate h with rfl | ⟨l, hl, hc⟩
  · exact hsep
  · obtain ⟨m, -, rfl⟩ := List.mem_map.mp hl
    exact solid_of_mem_toDigits hb hle hc

theorem solid_of_mem_dotted {n : Nat} {c : Char} (h : c ∈ dotted n) : Solid c :=
  solid_of_mem_numbers (by decide) (by decide) (by decide) h

theorem solid_of_mem_colons {gs : List Nat} {c : Char} (h : c ∈ colons gs) : Solid c :=
  solid_of_mem_numbers (by decide) (by decide) (by decide) h

theorem solid_of_mem_bracketed {gs : List Nat} {c : Char} (h : c ∈ bracketed gs) : Solid c := by
  rw [bracketed] at h
  split at h
  · simp only [List.mem_cons, List.mem_append, List.not_mem_nil, or_false] at h
    rcases h with rfl | h | rfl
    · decide
    · exact solid_of_mem_colons h
    · decide
  · simp only [List.mem_cons, List.mem_append, List.not_mem_nil, or_false] at h
    rcases h with rfl | ((h | rfl | rfl) | h) | rfl
    · decide
    · exact solid_of_mem_colons h
    · decide
    · decide
    · exact solid_of_mem_colons h
    · decide

theorem solid_of_not_forbidden {c : Char} (h : forbidden c = false) : Solid c := by
  simp only [forbidden, Bool.or_eq_false_iff, decide_eq_false_iff_not, List.contains_eq_mem, List.mem_cons,
    List.not_mem_nil, or_false, not_or] at h
  simp [Solid, FileUrl.endsSegment, h]
  omega

/-- A host that was read is written in solid characters. -/
theorem forall_mem_serialize? {cs host : List Char} (h : serialize? cs = some host) : ∀ c ∈ host, Solid c := by
  intro c hc
  unfold serialize? at h
  split at h
  · split at h
    · obtain ⟨gs, -, rfl⟩ := Option.map_eq_some_iff.mp h
      exact solid_of_mem_bracketed hc
    · cases h
  · dsimp only at h
    split at h
    case isTrue => cases h
    case isFalse hd =>
      split at h
      · obtain ⟨n, -, rfl⟩ := Option.map_eq_some_iff.mp h
        exact solid_of_mem_dotted hc
      · obtain rfl := Option.some.inj h
        simp only [not_or, List.any_eq_true, not_exists, not_and] at hd
        exact solid_of_not_forbidden (by simpa using hd.2.1 c hc)

end ScriptLink.Url.Host
