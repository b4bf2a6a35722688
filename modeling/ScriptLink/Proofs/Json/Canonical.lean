import ScriptLink.Json.Value

/-!
# ScriptLink.Proofs.Json.Canonical — objects in key order

* `Value.canonical` puts the members of every object of a value into key order, where the last of
  several members with one key counts. `canonical_of_sorted`: a value that is in this form stays.
* `get?_object` says which member of `Value.object` is found: the last with the key. There is only one object
  in key order that has these values (`eq_object_iff`).
-/

namespace ScriptLink.Value

/-! ## Lookup -/

theorem lookup_foldl_insertMember (key : String) (ms acc : List (String × Value)) :
    (ms.foldl (fun ms m => insertMember m.1 m.2 ms) acc).lookup key =
      (ms.reverse.lookup key).or (acc.lookup key) := by
  induction ms generalizing acc with
  | nil => simp
  | cons m rest ih =>
    obtain ⟨k, v⟩ := m
    rw [List.foldl_cons, ih, List.reverse_cons, List.lookup_append, Option.or_assoc]
    congr 1
    by_cases h : key = k
    · subst h
      simp
    · have hk : (key == k) = false := beq_eq_false_iff_ne.mpr h
      rw [lookup_insertMember_of_ne h, List.lookup_cons, hk]
      rfl

/-- Of several members with one key the last is found. -/
theorem get?_object (key : String) (ms : List (String × Value)) :
    (object ms).get? key = ms.reverse.lookup key := by
  unfold object
  rw [get?_obj, lookup_foldl_insertMember, List.lookup_nil, Option.or_none]

theorem mem_insertMember {key : String} {v : Value} {ms : List (String × Value)}
    {m : String × Value} (h : m ∈ insertMember key v ms) : m = (key, v) ∨ m ∈ ms := by
  induction ms with
  | nil => exact Or.inl (List.mem_singleton.mp h)
  | cons n rest ih =>
    obtain ⟨k, w⟩ := n
    unfold insertMember at h
    split at h
    · exact List.mem_cons.mp h
    · split at h
      · rcases List.mem_cons.mp h with h | h
        · exact Or.inl h
        · exact Or.inr (List.mem_cons_of_mem _ h)
      · rcases List.mem_cons.mp h with h | h
        · exact Or.inr (h ▸ List.mem_cons_self)
        · rcases ih h with h | h
          · exact Or.inl h
          · exact Or.inr (List.mem_cons_of_mem _ h)

/-- The members of an object are among those it was made of. -/
theorem mem_of_mem_foldl_insertMember {ms acc : List (String × Value)} {m : String × Value}
    (h : m ∈ ms.foldl (fun ms m => insertMember m.1 m.2 ms) acc) : m ∈ ms ∨ m ∈ acc := by
  induction ms generalizing acc with
  | nil => exact Or.inr h
  | cons n rest ih =>
    rcases ih h with h | h
    · exact Or.inl (List.mem_cons_of_mem _ h)
    · rcases mem_insertMember h with rfl | h
      · exact Or.inl List.mem_cons_self
      · exact Or.inr h

/-! ## Key order -/

theorem insertMember_of_lt {key : String} (v : Value) {ms : List (String × Value)}
    (h : ∀ m ∈ ms, m.1 < key) : insertMember key v ms = ms ++ [(key, v)] := by
  induction ms with
  | nil => rfl
  | cons m rest ih =>
    obtain ⟨k, w⟩ := m
    have hk : k < key := h (k, w) List.mem_cons_self
    have hlt : ¬ key < k := String.lt_asymm hk
    have hne : key ≠ k := fun e => String.lt_irrefl k (e ▸ hk)
    rw [insertMember, if_neg hlt, if_neg hne, ih fun m hm => h m (List.mem_cons_of_mem _ hm)]
    rfl

theorem foldl_insertMember_of_pairwise {ms acc : List (String × Value)}
    (h : (acc ++ ms).Pairwise fun a b => a.1 < b.1) :
    ms.foldl (fun ms m => insertMember m.1 m.2 ms) acc = acc ++ ms := by
  induction ms generalizing acc with
  | nil => simp
  | cons m rest ih =>
    have hlt : ∀ n ∈ acc, n.1 < m.1 := fun n hn =>
      (List.pairwise_append.mp h).2.2 n hn m List.mem_cons_self
    rw [List.foldl_cons, insertMember_of_lt m.2 hlt, ih (by simpa using h)]
    simp

theorem object_of_pairwise {ms : List (String × Value)} (h : ms.Pairwise fun a b => a.1 < b.1) :
    object ms = .obj ms := by
  unfold object
  rw [foldl_insertMember_of_pairwise (by simpa using h), List.nil_append]

theorem pairwise_insertMember {key : String} (v : Value) {ms : List (String × Value)}
    (h : ms.Pairwise fun a b => a.1 < b.1) :
    (insertMember key v ms).Pairwise fun a b => a.1 < b.1 := by
  induction ms with
  | nil => exact List.pairwise_singleton _ _
  | cons m rest ih =>
    obtain ⟨k, w⟩ := m
    obtain ⟨hk, hrest⟩ := List.pairwise_cons.mp h
    unfold insertMember
    split
    · rename_i hlt
      refine List.pairwise_cons.mpr ⟨fun n hn => ?_, h⟩
      rcases List.mem_cons.mp hn with rfl | hn
      · exact hlt
      · exact String.lt_trans hlt (hk n hn)
    · rename_i hlt
      split
      · rename_i heq
        rw [heq]
        exact List.pairwise_cons.mpr ⟨hk, hrest⟩
      · rename_i hne
        refine List.pairwise_cons.mpr ⟨fun n hn => ?_, ih hrest⟩
        rcases mem_insertMember hn with rfl | hn
        · have hle : k ≤ key := String.not_lt.mp hlt
          exact Std.lt_of_le_of_ne hle (Ne.symm hne)
        · exact hk n hn

theorem pairwise_foldl_insertMember {ms acc : List (String × Value)}
    (h : acc.Pairwise fun a b => a.1 < b.1) :
    (ms.foldl (fun ms m => insertMember m.1 m.2 ms) acc).Pairwise fun a b => a.1 < b.1 := by
  induction ms generalizing acc with
  | nil => exact h
  | cons m rest ih => exact ih (pairwise_insertMember m.2 h)

/-- A key before all others is not among them. -/
theorem lookup_eq_none_of_lt {key : String} {ms : List (String × Value)} (h : ∀ m ∈ ms, key < m.1) :
    ms.lookup key = none := by
  refine List.lookup_eq_none_iff.mpr fun m hm => bne_iff_ne.mpr ?_
  rintro rfl
  exact String.lt_irrefl _ (h m hm)

/-- The first of several members in key order is not before the first of others with the same values. -/
theorem not_lt_of_lookup {m n : String × Value} {ms ns : List (String × Value)}
    (hn : (n :: ns).Pairwise fun a b => a.1 < b.1)
    (h : ∀ key, (m :: ms).lookup key = (n :: ns).lookup key) : ¬m.1 < n.1 := by
  intro hlt
  have hall : ∀ l ∈ n :: ns, m.1 < l.1 := List.forall_mem_cons.mpr
    ⟨hlt, fun l hl => String.lt_trans hlt ((List.pairwise_cons.mp hn).1 l hl)⟩
  have hm := h m.1
  rw [lookup_eq_none_of_lt hall, List.lookup_cons_self] at hm
  cases hm

/-- Members in key order are told apart by the values of the keys. -/
theorem eq_of_lookup {ms ns : List (String × Value)} (hm : ms.Pairwise fun a b => a.1 < b.1)
    (hn : ns.Pairwise fun a b => a.1 < b.1) (h : ∀ key, ms.lookup key = ns.lookup key) : ms = ns := by
  induction ms generalizing ns with
  | nil =>
    cases ns with
    | nil => rfl
    | cons n ns =>
      have hkey := h n.1
      rw [List.lookup_cons_self] at hkey
      cases hkey
  | cons m ms ih =>
    cases ns with
    | nil =>
      have hkey := h m.1
      rw [List.lookup_cons_self] at hkey
      cases hkey
    | cons n ns =>
      obtain ⟨k, v⟩ := m
      obtain ⟨l, w⟩ := n
      have hkl := String.not_lt.mp (not_lt_of_lookup hm fun key => (h key).symm)
      obtain rfl : k = l := String.le_antisymm hkl (String.not_lt.mp (not_lt_of_lookup hn h))
      obtain ⟨hmk, hms⟩ := List.pairwise_cons.mp hm
      obtain ⟨hnk, hns⟩ := List.pairwise_cons.mp hn
      have hvalue := h k
      rw [List.lookup_cons_self, List.lookup_cons_self] at hvalue
      cases hvalue
      rw [ih hms hns fun key => ?_]
      by_cases hkey : key = k
      · rw [hkey, lookup_eq_none_of_lt hmk, lookup_eq_none_of_lt hnk]
      · have hother := h key
        have hb : (key == k) = false := beq_eq_false_iff_ne.mpr hkey
        rwa [List.lookup_cons, List.lookup_cons, hb] at hother

/-- An object of some members is the one in key order that has their values, of several with one key the
last. -/
theorem eq_object_iff {ms : List (String × Value)} {v : Value} : v = object ms ↔
    ∃ members, v = .obj members ∧ members.Pairwise (fun a b => a.1 < b.1) ∧
      ∀ key, members.lookup key = ms.reverse.lookup key := by
  have hget (key : String) := get?_object key ms
  refine ⟨fun h => ?_, ?_⟩
  · exact ⟨_, h, pairwise_foldl_insertMember .nil, hget⟩
  · rintro ⟨members, rfl, hpairwise, hlookup⟩
    exact congrArg obj (eq_of_lookup hpairwise (pairwise_foldl_insertMember .nil)
      fun key => (hlookup key).trans (hget key).symm)

theorem sortedItems_iff {items : List Value} : SortedItems items ↔ ∀ v ∈ items, v.Sorted := by
  induction items with
  | nil => simp [SortedItems]
  | cons v rest ih => simp [SortedItems, ih]

theorem sortedMembers_iff {members : List (String × Value)} :
    SortedMembers members ↔ ∀ m ∈ members, m.2.Sorted := by
  induction members with
  | nil => simp [SortedMembers]
  | cons m rest ih => simp [SortedMembers, ih]

/-- An object has its keys in order if the values in it have. -/
theorem sorted_object {ms : List (String × Value)} (h : ∀ m ∈ ms, m.2.Sorted) :
    (object ms).Sorted := by
  refine ⟨pairwise_foldl_insertMember .nil, sortedMembers_iff.mpr fun m hm => ?_⟩
  exact h m ((mem_of_mem_foldl_insertMember hm).resolve_right List.not_mem_nil)

/-! ## Canonical values -/

mutual

/-- The value with the members of every object in key order; the last of several with one key
counts. -/
def canonical : Value → Value
  | .arr items => .arr (canonicalItems items)
  | .obj members => object (canonicalMembers members)
  | v => v

def canonicalItems : List Value → List Value
  | [] => []
  | v :: rest => canonical v :: canonicalItems rest

def canonicalMembers : List (String × Value) → List (String × Value)
  | [] => []
  | (k, v) :: rest => (k, canonical v) :: canonicalMembers rest

end

theorem canonicalItems_eq_map (items : List Value) : canonicalItems items = items.map canonical := by
  induction items with
  | nil => rfl
  | cons v rest ih => rw [canonicalItems, ih, List.map_cons]

theorem canonicalMembers_eq_map (members : List (String × Value)) :
    canonicalMembers members = members.map fun m => (m.1, canonical m.2) := by
  induction members with
  | nil => rfl
  | cons m rest ih => rw [canonicalMembers, ih, List.map_cons]

mutual

/-- A value whose objects have their keys in order stays as it is. -/
theorem canonical_of_sorted : ∀ {v : Value}, v.Sorted → v.canonical = v
  | .null, _ => rfl
  | .bool _, _ => rfl
  | .num _, _ => rfl
  | .str _, _ => rfl
  | .arr items, h => by
    rw [Sorted] at h
    rw [canonical, canonicalItems_of_sorted h]
  | .obj members, h => by
    rw [Sorted] at h
    rw [canonical, canonicalMembers_of_sorted h.2, object_of_pairwise h.1]

theorem canonicalItems_of_sorted : ∀ {items : List Value}, SortedItems items →
    canonicalItems items = items
  | [], _ => rfl
  | v :: rest, h => by
    rw [SortedItems] at h
    rw [canonicalItems, canonical_of_sorted h.1, canonicalItems_of_sorted h.2]

theorem canonicalMembers_of_sorted : ∀ {members : List (String × Value)}, SortedMembers members →
    canonicalMembers members = members
  | [], _ => rfl
  | (k, v) :: rest, h => by
    rw [SortedMembers] at h
    rw [canonicalMembers, canonical_of_sorted h.1, canonicalMembers_of_sorted h.2]

end

@[simp] theorem canonical_null : canonical .null = .null := rfl

@[simp] theorem canonical_bool (b : Bool) : canonical (.bool b) = .bool b := rfl

@[simp] theorem canonical_num (n : Number) : canonical (.num n) = .num n := rfl

@[simp] theorem canonical_str (s : String) : canonical (.str s) = .str s := rfl

@[simp] theorem canonical_strings (texts : List String) :
    canonical (.strings texts) = .strings texts := by
  unfold strings
  rw [canonical, canonicalItems_eq_map, List.map_map]
  rfl

/-- Nothing but `null` becomes `null`. -/
theorem present?_canonical (v : Value) : v.canonical.present? = v.present?.map canonical := by
  cases v <;> rfl

end ScriptLink.Value
