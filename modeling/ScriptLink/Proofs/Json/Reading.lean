import ScriptLink.Proofs.Json.RoundTrip
import ScriptLink.Proofs.Number.Shortest

/-!
# ScriptLink.Proofs.Json.Reading — what the reader gives

* `number_reread`: every number that the reader gives is read back from its own text, be it an integer
  of 64 bits or a floating-point number.
* `ofText?_exact`: a value that is read nests at most 127 deep, and all its numbers are of that kind.
* `ofText?_sorted`: every object in it has its keys in order. So its text is read as it (`ofText?_reread`).
-/

namespace ScriptLink.Json

theorem bind_eq_ok {ε α β : Type} {x : Except ε α} {f : α → Except ε β} {b : β} :
    (x >>= f) = .ok b ↔ ∃ a, x = .ok a ∧ f a = .ok b := by
  cases x with
  | error e =>
    constructor
    · intro h
      cases h
    · rintro ⟨a, h, -⟩
      cases h
  | ok a =>
    constructor
    · intro h
      exact ⟨a, rfl, h⟩
    · rintro ⟨c, hc, h⟩
      cases hc
      exact h

/-! ## Numbers -/

theorem wholeNumber?_reread {negative : Bool} {n : Nat} {x : Number}
    (h : wholeNumber? negative n = some x) : x.reread = some x := by
  unfold wholeNumber? at h
  dsimp only at h
  generalize (if negative then -(n : Int) else n) = i at h
  split at h
  · rename_i hfits
    obtain rfl := Option.some.inj h
    exact Number.reread_int hfits.1
  · obtain ⟨y, hy, rfl⟩ := Option.map_eq_some_iff.mp h
    exact Number.reread_real (Binary64.canonical_of_ofDecimal? hy)

theorem assemble?_reread {negative : Bool} {whole frac : List Char} {e : Option Int} {x : Number}
    (h : assemble? negative whole frac e = some x) : x.reread = some x := by
  unfold assemble? at h
  split at h
  · exact wholeNumber?_reread h
  · obtain ⟨y, hy, rfl⟩ := Option.map_eq_some_iff.mp h
    exact Number.reread_real (Binary64.canonical_of_ofDecimal? hy)

/-- A number that is read is reread as itself. -/
theorem number_reread {cs rest : List Char} {x : Number} (h : number cs = .ok (x, rest)) :
    x.reread = some x := by
  unfold number at h
  dsimp only at h
  obtain ⟨⟨whole, cs₁⟩, -, h⟩ := bind_eq_ok.mp h
  obtain ⟨⟨frac, cs₂⟩, -, h⟩ := bind_eq_ok.mp h
  obtain ⟨⟨e, cs₃⟩, -, h⟩ := bind_eq_ok.mp h
  dsimp only at h
  split at h
  · rename_i y hy
    cases h
    exact assemble?_reread hy
  · cases h

/-! ## Loops -/

section

variable {α κ : Type} {P : α → Prop} {item : Step α} {key : Step κ}

theorem laterItems_forall (hitem : ∀ {cs a rest}, item cs = .ok (a, rest) → P a) {n : Nat}
    {cs rest : List Char} {xs : List α} (h : laterItems item n cs = .ok (xs, rest)) :
    ∀ x ∈ xs, P x := by
  induction n generalizing cs xs with
  | zero => cases h
  | succ n ih =>
    unfold laterItems at h
    split at h
    · cases h
      exact fun x hx => absurd hx List.not_mem_nil
    · split at h
      · cases h
      · obtain ⟨⟨a, cs₁⟩, ha, h⟩ := bind_eq_ok.mp h
        obtain ⟨⟨as, cs₂⟩, has, h⟩ := bind_eq_ok.mp h
        cases h
        exact List.forall_mem_cons.mpr ⟨hitem ha, ih has⟩
    · cases h

/-- What holds of every item holds of all items of an array. -/
theorem items_forall (hitem : ∀ {cs a rest}, item cs = .ok (a, rest) → P a) {cs rest : List Char}
    {xs : List α} (h : items item cs = .ok (xs, rest)) : ∀ x ∈ xs, P x := by
  unfold items at h
  split at h
  · cases h
    exact fun x hx => absurd hx List.not_mem_nil
  · obtain ⟨⟨a, cs₁⟩, ha, h⟩ := bind_eq_ok.mp h
    obtain ⟨⟨as, cs₂⟩, has, h⟩ := bind_eq_ok.mp h
    cases h
    exact List.forall_mem_cons.mpr ⟨hitem ha, laterItems_forall hitem has⟩

theorem member_forall (hitem : ∀ {cs a rest}, item cs = .ok (a, rest) → P a) {cs rest : List Char}
    {m : κ × α} (h : member key item cs = .ok (m, rest)) : P m.2 := by
  unfold member at h
  split at h
  · obtain ⟨⟨k, cs₁⟩, -, h⟩ := bind_eq_ok.mp h
    dsimp only at h
    split at h
    · obtain ⟨⟨a, cs₂⟩, ha, h⟩ := bind_eq_ok.mp h
      cases h
      exact hitem ha
    · cases h
  · cases h

theorem laterMembers_forall (hitem : ∀ {cs a rest}, item cs = .ok (a, rest) → P a) {n : Nat}
    {cs rest : List Char} {ms : List (κ × α)} (h : laterMembers key item n cs = .ok (ms, rest)) :
    ∀ m ∈ ms, P m.2 := by
  induction n generalizing cs ms with
  | zero => cases h
  | succ n ih =>
    unfold laterMembers at h
    split at h
    · cases h
      exact fun x hx => absurd hx List.not_mem_nil
    · obtain ⟨⟨m, cs₁⟩, hm, h⟩ := bind_eq_ok.mp h
      obtain ⟨⟨later, cs₂⟩, hlater, h⟩ := bind_eq_ok.mp h
      cases h
      exact List.forall_mem_cons.mpr ⟨member_forall hitem hm, ih hlater⟩
    · cases h

/-- What holds of every value holds of the values of all members of an object. -/
theorem members_forall (hitem : ∀ {cs a rest}, item cs = .ok (a, rest) → P a)
    {cs rest : List Char} {ms : List (κ × α)} (h : members key item cs = .ok (ms, rest)) :
    ∀ m ∈ ms, P m.2 := by
  unfold members at h
  split at h
  · cases h
    exact fun x hx => absurd hx List.not_mem_nil
  · obtain ⟨⟨m, cs₁⟩, hm, h⟩ := bind_eq_ok.mp h
    obtain ⟨⟨later, cs₂⟩, hlater, h⟩ := bind_eq_ok.mp h
    cases h
    exact List.forall_mem_cons.mpr ⟨member_forall hitem hm, laterMembers_forall hitem hlater⟩

end

/-! ## Values -/

theorem literal_eq {α : Type} {v w : α} {word cs rest : List Char}
    (h : literal v word cs = .ok (w, rest)) : w = v := by
  induction word generalizing cs with
  | nil =>
    cases h
    rfl
  | cons c word ih =>
    cases cs with
    | nil => cases h
    | cons d cs =>
      unfold literal at h
      split at h
      · exact ih h
      · cases h

theorem scalar_exact {cs rest : List Char} {v : Value} (h : scalar cs = .ok (v, rest)) :
    v.depth = 0 ∧ v.Exact := by
  unfold scalar at h
  split at h
  · rw [literal_eq h]
    exact ⟨rfl, trivial⟩
  · rw [literal_eq h]
    exact ⟨rfl, trivial⟩
  · rw [literal_eq h]
    exact ⟨rfl, trivial⟩
  · obtain ⟨⟨s, cs₁⟩, -, h⟩ := bind_eq_ok.mp h
    cases h
    exact ⟨rfl, trivial⟩
  · split at h
    · obtain ⟨⟨n, cs₁⟩, hn, h⟩ := bind_eq_ok.mp h
      cases h
      exact ⟨rfl, number_reread hn⟩
    · cases h
  · cases h

end ScriptLink.Json

namespace ScriptLink.Value

theorem depthOfItems_le {d : Nat} {items : List Value} (h : ∀ v ∈ items, v.depth ≤ d) :
    depthOfItems items ≤ d := by
  induction items with
  | nil => exact Nat.zero_le d
  | cons v rest ih =>
    rw [depthOfItems]
    exact Nat.max_le.mpr ⟨h v List.mem_cons_self, ih fun w hw => h w (List.mem_cons_of_mem _ hw)⟩

theorem depthOfMembers_le {d : Nat} {members : List (String × Value)}
    (h : ∀ m ∈ members, m.2.depth ≤ d) : depthOfMembers members ≤ d := by
  induction members with
  | nil => exact Nat.zero_le d
  | cons m rest ih =>
    rw [depthOfMembers]
    exact Nat.max_le.mpr ⟨h m List.mem_cons_self, ih fun w hw => h w (List.mem_cons_of_mem _ hw)⟩

theorem depth_le_of_mem {members : List (String × Value)} {m : String × Value}
    (h : m ∈ members) : m.2.depth < (obj members).depth := by
  rw [depth, Nat.lt_succ_iff]
  induction members with
  | nil => cases h
  | cons n rest ih =>
    rw [depthOfMembers]
    rcases List.mem_cons.mp h with rfl | h
    · exact Nat.le_max_left _ _
    · exact (ih h).trans (Nat.le_max_right _ _)

theorem mem_object {ms members : List (String × Value)} (h : object ms = .obj members)
    {m : String × Value} (hm : m ∈ members) : m ∈ ms := by
  cases h
  exact (mem_of_mem_foldl_insertMember hm).resolve_right List.not_mem_nil

end ScriptLink.Value

namespace ScriptLink.Json

open Value

/-- A value that is read nests no deeper than is allowed, and its numbers are reread as themselves. -/
theorem value_exact {d : Nat} {cs rest : List Char} {v : Value} (h : value d cs = .ok (v, rest)) :
    v.depth ≤ d ∧ v.Exact := by
  induction d generalizing cs rest v with
  | zero =>
    obtain ⟨hd, he⟩ := scalar_exact h
    exact ⟨hd.le, he⟩
  | succ d ih =>
    unfold value at h
    split at h
    · obtain ⟨⟨xs, cs₁⟩, hxs, h⟩ := bind_eq_ok.mp h
      cases h
      have hall := items_forall (P := fun v => v.depth ≤ d ∧ v.Exact) ih hxs
      refine ⟨?_, exactItems_iff.mpr fun v hv => (hall v hv).2⟩
      exact Nat.succ_le_succ (depthOfItems_le fun v hv => (hall v hv).1)
    · obtain ⟨⟨ms, cs₁⟩, hms, h⟩ := bind_eq_ok.mp h
      cases h
      have hall := members_forall (P := fun v => v.depth ≤ d ∧ v.Exact) ih hms
      refine ⟨?_, exactMembers_iff.mpr fun m hm => (hall m (mem_object rfl hm)).2⟩
      exact Nat.succ_le_succ (depthOfMembers_le fun m hm => (hall m (mem_object rfl hm)).1)
    · obtain ⟨hd, he⟩ := scalar_exact h
      exact ⟨hd.le.trans (Nat.zero_le _), he⟩

/-- A value that is read has the keys of all its objects in order. -/
theorem value_sorted {d : Nat} {cs rest : List Char} {v : Value}
    (h : value d cs = .ok (v, rest)) : v.Sorted := by
  have hscalar {cs rest : List Char} {v : Value} (h : scalar cs = .ok (v, rest)) : v.Sorted := by
    have hdepth := (scalar_exact h).1
    cases v with
    | arr | obj => simp [Value.depth] at hdepth
    | _ => exact trivial
  induction d generalizing cs rest v with
  | zero => exact hscalar h
  | succ d ih =>
    unfold value at h
    split at h
    · obtain ⟨⟨xs, cs₁⟩, hxs, h⟩ := bind_eq_ok.mp h
      cases h
      exact sortedItems_iff.mpr (items_forall (P := Value.Sorted) ih hxs)
    · obtain ⟨⟨ms, cs₁⟩, hms, h⟩ := bind_eq_ok.mp h
      cases h
      exact sorted_object (members_forall (P := Value.Sorted) ih hms)
    · exact hscalar h

end ScriptLink.Json

namespace ScriptLink.Value

theorem value_of_ofText? {s : String} {v : Value} (h : ofText? s = some v) :
    ∃ rest, Json.value Json.maxDepth s.toList = .ok (v, rest) := by
  unfold ofText? at h
  split at h
  · rename_i w hr
    cases h
    unfold read readChars Json.whole at hr
    obtain ⟨⟨u, rest⟩, hu, hr⟩ := Json.bind_eq_ok.mp hr
    dsimp only at hr
    split at hr
    · cases hr
      exact ⟨rest, hu⟩
    · cases hr
  · cases h

/-- A text that is read as a value nests at most 127 deep, and its numbers are reread as themselves. -/
theorem ofText?_exact {s : String} {v : Value} (h : ofText? s = some v) : v.depth ≤ 127 ∧ v.Exact := by
  obtain ⟨rest, hv⟩ := value_of_ofText? h
  rw [← maxDepth_eq]
  exact Json.value_exact hv

theorem ofText?_sorted {s : String} {v : Value} (h : ofText? s = some v) : v.Sorted := by
  obtain ⟨rest, hv⟩ := value_of_ofText? h
  exact Json.value_sorted hv

/-- A value with its keys in order and numbers that are reread as themselves is read from its own text. -/
theorem ofText?_of_sorted {v : Value} (hd : v.depth ≤ 127) (he : v.Exact) (hs : v.Sorted) :
    ofText? v.text = some v := by
  have hreread : v.reread = some v.canonical := legible_of_exact he
  rw [ofText?_text, if_pos hd, hreread, canonical_of_sorted hs]

/-- A value that was read is read again from its own text. -/
theorem ofText?_reread {s : String} {v : Value} (h : ofText? s = some v) : ofText? v.text = some v := by
  obtain ⟨hd, he⟩ := ofText?_exact h
  exact ofText?_of_sorted hd he (ofText?_sorted h)

end ScriptLink.Value
