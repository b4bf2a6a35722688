import ScriptLink.Config.Runtime
import ScriptLink.Proofs.Json.Record

/-!
# ScriptLink.Proofs.Config.Runtime — which texts are runtime configurations

A runtime configuration is meant to be an object with at most three keys, and is read from such an object, whatever
the order of its members and the white space in it. It is read from an array as well, whose items take the place of
the members in order.

* `Holds start ms c`: the members hold what `c` has beyond `start`.
* `ByKey` and `ByOrder` are the two kinds of texts, one `JSON` object and one `JSON` array each.
* `read_grammar`: a configuration is read from the texts of these kinds, and every other text is refused, `JSON` or
  not. `read_array` reads one from an array.
-/

namespace ScriptLink

namespace RuntimeConfig

open ScriptLink.Json (Closed Member Written Led Spaced Document Fills Takes)
open ScriptLink.Number (Literal)

def keys : List String := ["targetSpecifier", "modules", "mfa"]

/-- How a target is written, which may be absent. -/
def writtenTarget (target : Option String) : Value := target.elim .null .str

/-- The value that was found is the one that is written for `x`; where none was found `x` is the default. -/
def Given (written : α → Value) (default : α) (found : Option Value) (x : α) : Prop :=
  found.elim (x = default) (· = written x)

/-- The members are all known, none comes twice, and they hold what the configuration has beyond `start`. -/
structure Holds (start : RuntimeConfig) (ms : List (String × Value)) (c : RuntimeConfig) : Prop where
  known : ∀ m ∈ ms, m.1 ∈ keys
  once : (ms.map Prod.fst).Nodup
  target : Given writtenTarget start.target (ms.lookup "targetSpecifier") c.target
  modules : Given .strings start.modules (ms.lookup "modules") c.modules
  factors : Given .strings start.factors (ms.lookup "mfa") c.factors

/-- An object whose members hold the configuration. -/
inductive ByKey : List Char → RuntimeConfig → Prop
  | object {inside : List Char} {ms : List (String × Value)} {c : RuntimeConfig} :
      Closed (Member (Written 126)) '\x7d' inside ms → Holds empty ms c → ByKey ('\x7b' :: inside) c

/-- An array of at most three items, which hold the configuration if the keys are put to them in order. -/
inductive ByOrder : List Char → RuntimeConfig → Prop
  | array {inside : List Char} {vs : List Value} {c : RuntimeConfig} :
      Closed (Written 126) ']' inside vs → vs.length ≤ keys.length → Holds empty (keys.zip vs) c →
      ByOrder ('[' :: inside) c

/-! ## Members -/

/-- What a member makes of a configuration. -/
def Sets (c : RuntimeConfig) (m : String × Value) (next : RuntimeConfig) : Prop :=
  (∃ target, m = ("targetSpecifier", writtenTarget target) ∧ next = { c with target }) ∨
    (∃ modules, m = ("modules", .strings modules) ∧ next = { c with modules }) ∨
    ∃ factors, m = ("mfa", .strings factors) ∧ next = { c with factors }

theorem writtenTarget_inj {s t : Option String} : writtenTarget s = writtenTarget t ↔ s = t := by
  constructor
  · intro h
    cases s <;> cases t <;> cases h <;> rfl
  · rintro rfl
    rfl

theorem strings_inj {xs ys : List String} : Value.strings xs = Value.strings ys ↔ xs = ys := by
  unfold Value.strings
  rw [Value.arr.injEq, List.map_inj_right fun _ _ => Value.str.inj]

theorem lookup_eq_none {ms : List (String × Value)} {key : String} (h : key ∉ ms.map Prod.fst) :
    ms.lookup key = none := by
  rw [List.lookup_eq_none_iff]
  intro m hm
  rw [bne_iff_ne]
  exact fun he => h (he ▸ List.mem_map_of_mem hm)

/-- A first member holds what is written for it, and nothing after it changes that. -/
theorem holds_cons {start c : RuntimeConfig} {m : String × Value} {ms : List (String × Value)} :
    Holds start (m :: ms) c ↔
      m.1 ∈ keys ∧ m.1 ∉ ms.map Prod.fst ∧ ∃ next, Sets start m next ∧ Holds next ms c := by
  constructor
  · rintro ⟨hall, hdistinct, htarget, hmodules, hfactors⟩
    obtain ⟨hkey, hknown⟩ := List.forall_mem_cons.mp hall
    obtain ⟨hnew, honce⟩ := List.nodup_cons.mp hdistinct
    obtain ⟨key, v⟩ := m
    refine ⟨hkey, hnew, ?_⟩
    simp only [keys, List.mem_cons, List.not_mem_nil, or_false] at hkey
    obtain rfl | rfl | rfl := hkey
    · obtain rfl : v = writtenTarget c.target := htarget
      refine ⟨_, .inl ⟨_, rfl, rfl⟩, hknown, honce, ?_, hmodules, hfactors⟩
      rw [lookup_eq_none hnew]
      rfl
    · obtain rfl : v = .strings c.modules := hmodules
      refine ⟨_, .inr (.inl ⟨_, rfl, rfl⟩), hknown, honce, htarget, ?_, hfactors⟩
      rw [lookup_eq_none hnew]
      rfl
    · obtain rfl : v = .strings c.factors := hfactors
      refine ⟨_, .inr (.inr ⟨_, rfl, rfl⟩), hknown, honce, htarget, hmodules, ?_⟩
      rw [lookup_eq_none hnew]
      rfl
  · rintro ⟨hkey, hnew, next, hsets, hknown, honce, htarget, hmodules, hfactors⟩
    have hall : ∀ n ∈ m :: ms, n.1 ∈ keys := List.forall_mem_cons.mpr ⟨hkey, hknown⟩
    have hdistinct : ((m :: ms).map Prod.fst).Nodup := List.nodup_cons.mpr ⟨hnew, honce⟩
    obtain ⟨t, rfl, rfl⟩ | ⟨xs, rfl, rfl⟩ | ⟨xs, rfl, rfl⟩ := hsets
    · rw [lookup_eq_none hnew] at htarget
      exact ⟨hall, hdistinct, writtenTarget_inj.mpr (Eq.symm htarget), hmodules, hfactors⟩
    · rw [lookup_eq_none hnew] at hmodules
      exact ⟨hall, hdistinct, htarget, strings_inj.mpr (Eq.symm hmodules), hfactors⟩
    · rw [lookup_eq_none hnew] at hfactors
      exact ⟨hall, hdistinct, htarget, hmodules, strings_inj.mpr (Eq.symm hfactors)⟩

theorem holds_nil {start c : RuntimeConfig} : Holds start [] c ↔ c = start := by
  constructor
  · rintro ⟨-, -, htarget, hmodules, hfactors⟩
    cases c
    cases start
    cases htarget
    cases hmodules
    cases hfactors
    rfl
  · rintro rfl
    exact ⟨List.forall_mem_nil _, List.nodup_nil, rfl, rfl, rfl⟩

/-- Members that are taken one after the other make a configuration just if together they hold it. -/
theorem fills_iff_holds {start c : RuntimeConfig} {seen : List String} {ms : List (String × Value)} :
    Fills keys Sets (start, seen) ms c ↔ Holds start ms c ∧ ∀ m ∈ ms, m.1 ∉ seen := by
  induction ms generalizing start seen with
  | nil =>
    rw [holds_nil]
    constructor
    · intro h
      cases h
      exact ⟨rfl, List.forall_mem_nil _⟩
    · rintro ⟨rfl, -⟩
      exact .nil
  | cons m ms ih =>
    rw [holds_cons]
    constructor
    · intro h
      cases h with
      | cons hkey hseen hsets hfills =>
        obtain ⟨hholds, hlater⟩ := ih.mp hfills
        refine ⟨⟨hkey, fun hmem => ?_, _, hsets, hholds⟩, List.forall_mem_cons.mpr ⟨hseen, fun n hn => ?_⟩⟩
        · obtain ⟨n, hn, he⟩ := List.mem_map.mp hmem
          exact hlater n hn (he ▸ List.mem_cons_self)
        · exact fun hmem => hlater n hn (List.mem_cons_of_mem _ hmem)
    · rintro ⟨⟨hkey, hnew, next, hsets, hholds⟩, hseen⟩
      obtain ⟨hfirst, hseen⟩ := List.forall_mem_cons.mp hseen
      refine .cons hkey hfirst hsets (ih.mpr ⟨hholds, fun n hn => ?_⟩)
      rw [List.mem_cons, not_or]
      exact ⟨fun he => hnew (he ▸ List.mem_map_of_mem hn), hseen n hn⟩

/-! ## The record -/

/-- The fields take what members make of a configuration. -/
theorem puts_shape (depth : Nat) : shape.Puts (depth + 1) Sets := by
  refine ⟨rfl, rfl, by decide, fun f hf r cs next rest => ?_⟩
  have htarget : Takes (depth + 1) (Json.optional Json.text) writtenTarget :=
    (Json.takes_text (depth + 1)).optional fun _ => Value.noConfusion
  have hlist : Takes (depth + 1) (Json.listOf Json.text) .strings := (Json.takes_text depth).listOf
  simp only [shape, List.mem_cons, List.not_mem_nil, or_false] at hf
  obtain rfl | rfl | rfl := hf
  · rw [htarget.field]
    simp [Sets, Json.Field.of]
  · rw [hlist.field]
    simp [Sets, Json.Field.of]
  · rw [hlist.field]
    simp [Sets, Json.Field.of]

theorem recorded_iff {cs : List Char} {c : RuntimeConfig} :
    Json.Recorded shape 126 Sets empty cs c ↔ ByKey cs c ∨ ByOrder cs c := by
  constructor
  · intro h
    cases h with
    | object hinside hfills => exact .inl (.object hinside (fills_iff_holds.mp hfills).1)
    | array hinside hlength hfills => exact .inr (.array hinside hlength (fills_iff_holds.mp hfills).1)
  · rintro (⟨hinside, hholds⟩ | ⟨hinside, hlength, hholds⟩)
    · exact .object hinside (fills_iff_holds.mpr ⟨hholds, fun _ _ => List.not_mem_nil⟩)
    · exact .array hinside hlength (fills_iff_holds.mpr ⟨hholds, fun _ _ => List.not_mem_nil⟩)

/-! ## Texts -/

theorem ByKey.written {cs : List Char} {c : RuntimeConfig} (h : ByKey cs c) : ∃ ms, Written 127 cs (.obj ms) := by
  cases h with
  | @object inside ms _ hinside _ =>
    obtain ⟨members, he, hcollects⟩ := Value.eq_object_iff.mp (Eq.refl (Value.object ms))
    exact ⟨members, .inr (.inr ⟨inside, ms, hinside, rfl, members, rfl, hcollects⟩)⟩

theorem ByOrder.written {cs : List Char} {c : RuntimeConfig} (h : ByOrder cs c) : ∃ vs, Written 127 cs (.arr vs) := by
  cases h with
  | @array inside vs _ hinside _ _ => exact ⟨vs, .inr (.inl ⟨inside, vs, hinside, rfl, rfl⟩)⟩

/-- A whole text that holds a configuration is the text of an object. -/
theorem document_of_byKey {cs : List Char} {c : RuntimeConfig} (h : Spaced ByKey cs c) :
    ∃ ms, Document cs (.obj ms) := by
  obtain ⟨⟨hbefore, h⟩, hafter⟩ := h
  obtain ⟨ms, hms⟩ := h.written
  exact ⟨ms, .space (.space hbefore hms) hafter⟩

theorem document_of_byOrder {cs : List Char} {c : RuntimeConfig} (h : Spaced ByOrder cs c) :
    ∃ vs, Document cs (.arr vs) := by
  obtain ⟨⟨hbefore, h⟩, hafter⟩ := h
  obtain ⟨vs, hvs⟩ := h.written
  exact ⟨vs, .space (.space hbefore hvs) hafter⟩

theorem spaced_recorded_iff {cs : List Char} {c : RuntimeConfig} :
    Spaced (Json.Recorded shape 126 Sets empty) cs c ↔ Spaced ByKey cs c ∨ Spaced ByOrder cs c := by
  constructor
  · rintro ⟨⟨hbefore, h⟩, hafter⟩
    exact (recorded_iff.mp h).imp (fun h => .space (.space hbefore h) hafter)
      fun h => .space (.space hbefore h) hafter
  · rintro (⟨⟨hbefore, h⟩, hafter⟩ | ⟨⟨hbefore, h⟩, hafter⟩)
    · exact .space (.space hbefore (recorded_iff.mpr (.inl h))) hafter
    · exact .space (.space hbefore (recorded_iff.mpr (.inr h))) hafter

theorem read_eq_ok_iff {s : String} {c : RuntimeConfig} :
    read s = .ok c ↔ Spaced ByKey s.toList c ∨ Spaced ByOrder s.toList c := by
  have hreads := Json.reads_record (puts_shape 125) empty
  have hstops : Json.Reads Literal.Stops (Json.record shape empty) (Led (Json.Recorded shape 126 Sets empty)) :=
    ⟨hreads.sound, fun hr _ => hreads.complete hr trivial⟩
  rw [← spaced_recorded_iff]
  exact hstops.whole

/-- **Runtime configurations**: a configuration is read from a text if and only if that is an object whose members
hold it, or an array whose items do in the order of the keys. Every other text is refused, among them the text of
every value that is neither object nor array. -/
theorem read_grammar (s : String) :
    (∀ c, read s = .ok c ↔ Spaced ByKey s.toList c ∨ Spaced ByOrder s.toList c) ∧
      ((∀ c, ¬Spaced ByKey s.toList c ∧ ¬Spaced ByOrder s.toList c) ↔ ∃ e, read s = .error e) ∧
      ((∃ c, Spaced ByKey s.toList c) → ∃ ms, Document s.toList (.obj ms)) ∧
      ((∃ c, Spaced ByOrder s.toList c) → ∃ vs, Document s.toList (.arr vs)) ∧
      ∀ v, Document s.toList v → (∀ ms, v ≠ .obj ms) → (∀ vs, v ≠ .arr vs) → ∃ e, read s = .error e := by
  have hrefused : (∀ c, ¬Spaced ByKey s.toList c ∧ ¬Spaced ByOrder s.toList c) ↔ ∃ e, read s = .error e := by
    simp only [← not_or, ← read_eq_ok_iff]
    cases read s <;> simp
  refine ⟨fun c => read_eq_ok_iff, hrefused, fun ⟨_, h⟩ => document_of_byKey h,
    fun ⟨_, h⟩ => document_of_byOrder h, ?_⟩
  intro v hv hobj harr
  refine hrefused.mp fun c => ⟨fun h => ?_, fun h => ?_⟩
  · obtain ⟨ms, hms⟩ := document_of_byKey h
    exact hobj ms (Document.unique hv hms)
  · obtain ⟨vs, hvs⟩ := document_of_byOrder h
    exact harr vs (Document.unique hv hvs)

/-- Members may come in any order and be left out, and a value that is no object is refused. -/
theorem read_grammar_members :
    Spaced ByKey "\x7b\"mfa\":[\"sms\"],\"targetSpecifier\":null\x7d ".toList ⟨none, [], ["sms"]⟩ ∧
      ∃ e, read "null" = .error e := by
  have hobject : Document "\x7b\"mfa\":[\"sms\"],\"targetSpecifier\":null\x7d ".toList
      (.obj [("mfa", .arr [.str "sms"]), ("targetSpecifier", .null)]) := by
    rw [← Value.readChars_eq_ok_iff, Value.readChars, Value.maxDepth_eq]
    rfl
  have hnull : Document "null".toList .null := by
    rw [← Value.readChars_eq_ok_iff, Value.readChars, Value.maxDepth_eq]
    rfl
  refine ⟨?_, (read_grammar "null").2.2.2.2 .null hnull (fun _ => Value.noConfusion) fun _ => Value.noConfusion⟩
  obtain ⟨hread, -, -, harray, -⟩ := read_grammar "\x7b\"mfa\":[\"sms\"],\"targetSpecifier\":null\x7d "
  rcases (hread ⟨none, [], ["sms"]⟩).mp (by decide +kernel) with h | h
  · exact h
  · obtain ⟨vs, hvs⟩ := harray ⟨_, h⟩
    exact Value.noConfusion (hobject.unique hvs)

/-- An array is read as well, its first item for the target, and it is not the text of an object. -/
theorem read_array : read "[\"builtin:echo\"]" = .ok ⟨some "builtin:echo", [], []⟩ ∧
    ¬∃ c, Spaced ByKey "[\"builtin:echo\"]".toList c := by
  refine ⟨by decide +kernel, fun ⟨c, h⟩ => ?_⟩
  have harray : Document "[\"builtin:echo\"]".toList (.arr [.str "builtin:echo"]) := by
    rw [← Value.readChars_eq_ok_iff, Value.readChars, Value.maxDepth_eq]
    rfl
  obtain ⟨ms, hms⟩ := document_of_byKey h
  exact Value.noConfusion (harray.unique hms)

end RuntimeConfig

end ScriptLink
