import Mathlib.Data.List.DropRight
import ScriptLink.Proofs.Json.Tokens

/-!
# ScriptLink.Proofs.Json.Acceptance — the reader accepts exactly the grammar

* `Rounds` and `Listed` are what the two loops over items and over members have in common;
  `Listed.reads`: such a list is read up to its closing bracket.
* `reads_value`: a value is read as far as its text goes.
* `Reads.whole`: what a step takes from a whole text; `readChars_eq_ok_iff`: a whole text is read as a value if and
  only if it is a document of it.
-/

namespace ScriptLink.Json

open ScriptLink.Number (Literal)

/-! ## Arrays and objects -/

/-- The rounds of a loop over items: white space, and then the closing bracket, or a comma and an item and
what the later rounds give. -/
structure Rounds (closing : Char) (p : Step α) (loop : Nat → Step (List α)) : Prop where
  zero : ∀ cs q, loop 0 cs ≠ .ok q
  succ : ∀ n cs xs rest, loop (n + 1) cs = .ok (xs, rest) ↔ ∃ space, Spaces space ∧
    ((cs = space ++ closing :: rest ∧ xs = []) ∨ ∃ more x after ys, cs = space ++ ',' :: more ∧
      p more = .ok (x, after) ∧ loop n after = .ok (ys, rest) ∧ xs = x :: ys)

/-- A list up to its closing bracket: white space, or an item and what the rounds after it give. -/
def Listed (closing : Char) (p : Step α) (loop : Nat → Step (List α)) (list : Step (List α)) : Prop :=
  ∀ cs xs rest, list cs = .ok (xs, rest) ↔
    (∃ space, Spaces space ∧ cs = space ++ closing :: rest ∧ xs = []) ∨ ∃ x after ys,
      p cs = .ok (x, after) ∧ loop (after.length + 1) after = .ok (ys, rest) ∧ xs = x :: ys

section

variable {closing : Char} {p : Step α} {G : List Char → α → Prop} {loop : Nat → Step (List α)}
  {list : Step (List α)} (hp : Reads Literal.Stops p (Led G))
include hp

/-- An item and the rounds after it take one or several items, up to the closing bracket. -/
theorem Rounds.sound (hr : Rounds closing p loop) {n : Nat} {cs after rest : List Char} {x : α}
    {xs : List α} (hx : p cs = .ok (x, after)) (hxs : loop n after = .ok (xs, rest)) :
    ∃ inside, cs = inside ++ closing :: rest ∧ Separated G inside (x :: xs) := by
  induction n generalizing cs after x xs with
  | zero => exact absurd hxs (hr.zero after _)
  | succ n ih =>
    obtain ⟨taken, rfl, hfirst⟩ := hp.sound hx
    obtain ⟨space, hs, ⟨rfl, rfl⟩ | ⟨more, y, later, ys, rfl, hy, hys, rfl⟩⟩ :=
      (hr.succ _ _ _ _).mp hxs
    · exact ⟨taken ++ space, by simp, .last (.space hfirst hs)⟩
    · obtain ⟨inside, rfl, hinside⟩ := ih hy hys
      exact ⟨(taken ++ space) ++ ',' :: inside, by simp, .comma (.space hfirst hs) hinside⟩

variable (hc : closing.isDigit = false ∧ closing ≠ '.' ∧ closing ≠ 'e' ∧ closing ≠ 'E')
include hc

/-- One or several items are taken by an item and the rounds after it, of which there are no more than
characters. -/
theorem Rounds.complete (hr : Rounds closing p loop) {inside : List Char} {xs : List α}
    (h : Separated G inside xs) (rest : List Char) : ∃ x after ys, xs = x :: ys ∧
      p (inside ++ closing :: rest) = .ok (x, after) ∧
      ∀ n, after.length < n → loop n after = .ok (ys, rest) := by
  induction h with
  | last hspaced =>
    obtain @⟨first, space, _, hfirst, hs⟩ := hspaced
    have hx := hp.complete hfirst (stops_spaces hs hc rest)
    rw [← List.append_assoc] at hx
    refine ⟨_, space ++ closing :: rest, [], rfl, hx, fun n hn => ?_⟩
    obtain ⟨n, rfl⟩ := Nat.exists_eq_succ_of_ne_zero (Nat.ne_zero_of_lt hn)
    exact (hr.succ _ _ _ _).mpr ⟨space, hs, .inl ⟨rfl, rfl⟩⟩
  | @comma _ inside _ _ hspaced _ ih =>
    obtain @⟨first, space, _, hfirst, hs⟩ := hspaced
    obtain ⟨y, later, ys, rfl, hy, hys⟩ := ih
    obtain ⟨taken, htaken, -⟩ := hp.sound hy
    have hx := hp.complete hfirst (stops_spaces hs (c := ',') (by decide) (inside ++ closing :: rest))
    refine ⟨_, space ++ ',' :: (inside ++ closing :: rest), y :: ys, rfl, ?_, fun n hn => ?_⟩
    · rw [← hx]
      simp
    · obtain ⟨n, rfl⟩ := Nat.exists_eq_succ_of_ne_zero (Nat.ne_zero_of_lt hn)
      refine (hr.succ _ _ _ _).mpr ⟨space, hs, .inr ⟨_, y, later, ys, rfl, hy, hys n ?_, rfl⟩⟩
      rw [htaken] at hn
      simp only [List.length_append, List.length_cons] at hn
      omega

/-- A list is read up to its closing bracket. -/
theorem Listed.reads (h : Listed closing p loop list) (hr : Rounds closing p loop) :
    Reads Any list (Closed G closing) := by
  refine ⟨fun hcs => ?_, fun {_ rest _} hclosed _ => ?_⟩
  · obtain ⟨space, hs, rfl, rfl⟩ | ⟨x, after, ys, hx, hys, rfl⟩ := (h _ _ _).mp hcs
    · exact ⟨space ++ [closing], by simp, .none hs⟩
    · obtain ⟨inside, rfl, hinside⟩ := hr.sound hp hx hys
      exact ⟨inside ++ [closing], by simp, .some hinside⟩
  · cases hclosed with
    | none hs => exact (h _ _ _).mpr (.inl ⟨_, hs, by simp, rfl⟩)
    | some hinside =>
      obtain ⟨x, after, ys, rfl, hx, hys⟩ := hr.complete hp hc hinside rest
      rw [List.append_assoc]
      exact (h _ _ _).mpr (.inr ⟨x, after, ys, hx, hys _ (Nat.lt_succ_self _), rfl⟩)

end

section

variable {item : Step α} (hclosing : ∀ {cs q}, item (']' :: cs) ≠ .ok q)
include hclosing

theorem rounds_laterItems : Rounds ']' (fun cs => item (skipSpace cs)) (laterItems item) := by
  refine ⟨fun cs q h => ?_, fun n cs xs rest => ⟨fun h => ?_, ?_⟩⟩
  · cases h
  · unfold laterItems at h
    split at h
    · rename_i hcs
      cases h
      obtain ⟨-, space, hs, rfl⟩ := of_skipSpace hcs
      exact ⟨space, hs, .inl ⟨rfl, rfl⟩⟩
    · rename_i more hcs
      obtain ⟨-, space, hs, rfl⟩ := of_skipSpace hcs
      split at h
      · cases h
      · obtain ⟨⟨x, after⟩, hx, h⟩ := bind_eq_ok.mp h
        obtain ⟨⟨ys, _⟩, hys, h⟩ := bind_eq_ok.mp h
        cases h
        exact ⟨space, hs, .inr ⟨more, x, after, ys, rfl, hx, hys, rfl⟩⟩
    · cases h
  · rintro ⟨space, hs, ⟨rfl, rfl⟩ | ⟨more, x, after, ys, rfl, hx, hys, rfl⟩⟩
    · rw [laterItems, skipSpace_spaces hs, skipSpace_cons (by decide)]
      rfl
    · rw [laterItems, skipSpace_spaces hs, skipSpace_cons (by decide)]
      simp only [] at hx ⊢
      split
      · rename_i heq
        rw [heq] at hx
        exact absurd hx hclosing
      · exact bind_eq_ok.mpr ⟨_, hx, bind_eq_ok.mpr ⟨_, hys, rfl⟩⟩

theorem listed_items :
    Listed ']' (fun cs => item (skipSpace cs)) (laterItems item) (items item) := by
  refine fun cs xs rest => ⟨fun h => ?_, ?_⟩
  · unfold items at h
    split at h
    · rename_i hcs
      cases h
      obtain ⟨-, space, hs, rfl⟩ := of_skipSpace hcs
      exact .inl ⟨space, hs, rfl, rfl⟩
    · obtain ⟨⟨x, after⟩, hx, h⟩ := bind_eq_ok.mp h
      obtain ⟨⟨ys, _⟩, hys, h⟩ := bind_eq_ok.mp h
      cases h
      exact .inr ⟨x, after, ys, hx, hys, rfl⟩
  · rintro (⟨space, hs, rfl, rfl⟩ | ⟨x, after, ys, hx, hys, rfl⟩)
    · rw [items, skipSpace_spaces hs, skipSpace_cons (by decide)]
      rfl
    · rw [items]
      simp only [] at hx
      split
      · rename_i heq
        rw [heq] at hx
        exact absurd hx hclosing
      · exact bind_eq_ok.mpr ⟨_, hx, bind_eq_ok.mpr ⟨_, hys, rfl⟩⟩

end

section

variable (key : Step κ) (item : Step α)

theorem rounds_laterMembers :
    Rounds '\x7d' (fun cs => member key item (skipSpace cs)) (laterMembers key item) := by
  refine ⟨fun cs q h => ?_, fun n cs ms rest => ⟨fun h => ?_, ?_⟩⟩
  · cases h
  · unfold laterMembers at h
    split at h
    · rename_i hcs
      cases h
      obtain ⟨-, space, hs, rfl⟩ := of_skipSpace hcs
      exact ⟨space, hs, .inl ⟨rfl, rfl⟩⟩
    · rename_i more hcs
      obtain ⟨-, space, hs, rfl⟩ := of_skipSpace hcs
      obtain ⟨⟨m, after⟩, hm, h⟩ := bind_eq_ok.mp h
      obtain ⟨⟨later, _⟩, hlater, h⟩ := bind_eq_ok.mp h
      cases h
      exact ⟨space, hs, .inr ⟨more, m, after, later, rfl, hm, hlater, rfl⟩⟩
    · cases h
  · rintro ⟨space, hs, ⟨rfl, rfl⟩ | ⟨more, m, after, later, rfl, hm, hlater, rfl⟩⟩
    · rw [laterMembers, skipSpace_spaces hs, skipSpace_cons (by decide)]
      rfl
    · rw [laterMembers, skipSpace_spaces hs, skipSpace_cons (by decide)]
      exact bind_eq_ok.mpr ⟨_, hm, bind_eq_ok.mpr ⟨_, hlater, rfl⟩⟩

theorem listed_members : Listed '\x7d' (fun cs => member key item (skipSpace cs))
    (laterMembers key item) (members key item) := by
  refine fun cs ms rest => ⟨fun h => ?_, ?_⟩
  · unfold members at h
    split at h
    · rename_i hcs
      cases h
      obtain ⟨-, space, hs, rfl⟩ := of_skipSpace hcs
      exact .inl ⟨space, hs, rfl, rfl⟩
    · obtain ⟨⟨m, after⟩, hm, h⟩ := bind_eq_ok.mp h
      obtain ⟨⟨later, _⟩, hlater, h⟩ := bind_eq_ok.mp h
      cases h
      exact .inr ⟨m, after, later, hm, hlater, rfl⟩
  · rintro (⟨space, hs, rfl, rfl⟩ | ⟨m, after, later, hm, hlater, rfl⟩)
    · rw [members, skipSpace_spaces hs, skipSpace_cons (by decide)]
      rfl
    · rw [members]
      simp only [] at hm
      split
      · rename_i heq
        rw [heq] at hm
        cases hm
      · exact bind_eq_ok.mpr ⟨_, hm, bind_eq_ok.mpr ⟨_, hlater, rfl⟩⟩

end

/-- A member is a key, a colon and what is read after it. -/
theorem member_eq_ok {key : Step κ} {item : Step α} {cs rest : List Char} {k : κ} {x : α} :
    member key item cs = .ok ((k, x), rest) ↔ ∃ more after later, cs = '"' :: more ∧
      key more = .ok (k, after) ∧ skipSpace after = ':' :: later ∧ item later = .ok (x, rest) := by
  constructor
  · intro h
    unfold member at h
    split at h
    · obtain ⟨⟨k', after⟩, hk, h⟩ := bind_eq_ok.mp h
      dsimp only at h
      split at h
      · rename_i later hlater
        obtain ⟨⟨x', rest'⟩, hx, h⟩ := bind_eq_ok.mp h
        cases h
        exact ⟨_, after, later, rfl, hk, hlater, hx⟩
      · cases h
    · cases h
  · rintro ⟨more, after, later, rfl, hk, hlater, hx⟩
    refine bind_eq_ok.mpr ⟨_, hk, ?_⟩
    dsimp only
    rw [hlater]
    exact bind_eq_ok.mpr ⟨_, hx, rfl⟩

section

variable {item : Step Value} {G : List Char → Value → Prop} (hitem : Reads Literal.Stops item (Led G))
include hitem

/-- A member is read as far as its value is. -/
theorem reads_member : Reads Literal.Stops (member string item) (Member G) := by
  refine ⟨fun {cs rest m} h => ?_, fun {_ rest _} hm hstop => ?_⟩
  · obtain ⟨name, v⟩ := m
    obtain ⟨more, after, later, rfl, hname, hcolon, hv⟩ := member_eq_ok.mp h
    obtain ⟨key, rfl, hkey⟩ := reads_string.sound hname
    obtain ⟨-, before, hbefore, rfl⟩ := of_skipSpace hcolon
    obtain ⟨_, rfl, hled⟩ := hitem.sound hv
    obtain ⟨hafter, hvalue⟩ := hled
    exact ⟨_, by simp, .colon hkey hbefore hafter hvalue⟩
  · obtain @⟨key, value, before, after, name, v, hkey, hbefore, hafter, hvalue⟩ := hm
    have hjoin : '"' :: (key ++ (before ++ ':' :: (after ++ value))) ++ rest =
        '"' :: (key ++ (before ++ ':' :: (after ++ value ++ rest))) := by simp
    rw [hjoin]
    refine member_eq_ok.mpr ⟨_, _, _, rfl, reads_string.complete hkey trivial, ?_,
      hitem.complete (.space hafter hvalue) hstop⟩
    rw [skipSpace_spaces hbefore, skipSpace_cons (by decide)]

theorem reads_members : Reads Any (members string item) (Closed (Member G) '\x7d') := by
  have hmember := (reads_member hitem).skip fun hm => by
    cases hm
    exact ⟨_, _, rfl, by decide⟩
  exact (listed_members string item).reads hmember (by decide) (rounds_laterMembers string item)

theorem reads_items (hclosing : ∀ {cs q}, item (']' :: cs) ≠ .ok q)
    (hskip : ∀ cs, item (skipSpace cs) = item cs) : Reads Any (items item) (Closed G ']') := by
  have hspace : Reads Literal.Stops (fun cs => item (skipSpace cs)) (Led G) := by
    rw [funext hskip]
    exact hitem
  exact (listed_items hclosing).reads hspace (by decide) (rounds_laterItems hclosing)

end

/-! ## Values -/

theorem of_literal {v w : α} {word cs rest : List Char} (h : literal v word cs = .ok (w, rest)) :
    cs = word ++ rest := by
  induction word generalizing cs with
  | nil =>
    cases h
    rfl
  | cons c word ih =>
    cases cs with
    | nil => cases h
    | cons d cs =>
      unfold literal at h
      split at h
      · rename_i hcd
        rw [hcd, ih h, List.cons_append]
      · cases h

/-- A bracket begins no scalar, and a closing one no value. -/
theorem value_closing {depth : Nat} {cs : List Char} {p : Taken Value} :
    value depth (']' :: cs) ≠ .ok p := by
  intro h
  cases depth <;> (rw [value, skipSpace_cons (by decide)] at h; cases h)

/-- A number begins with a sign or a digit. -/
theorem Numeral.head {cs : List Char} {n : Number} (h : Numeral cs n) :
    ∃ c more, cs = c :: more ∧ (c = '-' ∨ c.isDigit = true) := by
  obtain @⟨l, point, power, _, hdigits, -, -, -, -⟩ := h
  unfold Literal.signChars
  cases l.negative with
  | true => exact ⟨'-', _, rfl, .inl rfl⟩
  | false =>
    obtain ⟨d, ds, hd⟩ := List.exists_cons_of_ne_nil hdigits.1
    refine ⟨d, _, by rw [hd]; rfl, .inr ?_⟩
    exact hdigits.2 d (by rw [hd]; exact List.mem_cons_self)

theorem Scalar.head {cs : List Char} {v : Value} (h : Scalar cs v) :
    ∃ c more, cs = c :: more ∧ Begins c := by
  cases h with
  | number hn =>
    obtain ⟨c, more, rfl, hc⟩ := hn.head
    exact ⟨c, more, rfl, begins_of_number hc⟩
  | _ => exact ⟨_, _, rfl, by constructor <;> decide⟩

theorem reads_scalar : Reads Literal.Stops scalar Scalar := by
  refine ⟨fun h => ?_, fun {_ rest _} hs hstop => ?_⟩
  · unfold scalar at h
    split at h
    · obtain rfl := of_literal h
      obtain rfl := literal_eq h
      exact ⟨['n', 'u', 'l', 'l'], rfl, .null⟩
    · obtain rfl := of_literal h
      obtain rfl := literal_eq h
      exact ⟨['t', 'r', 'u', 'e'], rfl, .true⟩
    · obtain rfl := of_literal h
      obtain rfl := literal_eq h
      exact ⟨['f', 'a', 'l', 's', 'e'], rfl, .false⟩
    · obtain ⟨⟨s, rest⟩, hs, h⟩ := bind_eq_ok.mp h
      cases h
      obtain ⟨taken, rfl, hstring⟩ := reads_string.sound hs
      exact ⟨_, rfl, .string hstring⟩
    · split at h
      · obtain ⟨⟨n, rest⟩, hn, h⟩ := bind_eq_ok.mp h
        cases h
        obtain ⟨taken, hcs, hnumber⟩ := reads_number.sound hn
        exact ⟨taken, hcs, .number hnumber⟩
      · cases h
    · cases h
  · cases hs with
    | null | true | false => rfl
    | string hstring => exact bind_eq_ok.mpr ⟨_, reads_string.complete hstring trivial, rfl⟩
    | number hnumber =>
      obtain ⟨c, more, rfl, hc⟩ := hnumber.head
      rw [List.cons_append, scalar_number hc, ← List.cons_append]
      exact bind_eq_ok.mpr ⟨_, reads_number.complete hnumber hstop, rfl⟩

/-- A value with no white space in front of it. -/
def unspaced : Nat → Step Value
  | 0 => scalar
  | depth + 1 => fun cs =>
    match cs with
    | '[' :: rest => do
      let (xs, rest) ← items (value depth) rest
      return (.arr xs, rest)
    | '\x7b' :: rest => do
      let (ms, rest) ← members string (value depth) rest
      return (Value.object ms, rest)
    | rest => scalar rest

theorem value_eq (depth : Nat) (cs : List Char) : value depth cs = unspaced depth (skipSpace cs) := by
  cases depth <;> rfl

theorem value_skipSpace (depth : Nat) (cs : List Char) : value depth (skipSpace cs) = value depth cs := by
  rw [value_eq, value_eq, skipSpace, skipSpace, List.dropWhile_idempotent]

theorem Written.head {depth : Nat} {cs : List Char} {v : Value} (h : Written depth cs v) :
    ∃ c more, cs = c :: more ∧ isSpace c = false := by
  have hscalar (hs : Scalar cs v) : ∃ c more, cs = c :: more ∧ isSpace c = false := by
    obtain ⟨c, more, hcs, hc⟩ := hs.head
    exact ⟨c, more, hcs, hc.space⟩
  cases depth with
  | zero => exact hscalar h
  | succ d =>
    obtain hs | ⟨_, _, -, rfl, -⟩ | ⟨_, _, -, rfl, -⟩ := h
    · exact hscalar hs
    · exact ⟨_, _, rfl, by decide⟩
    · exact ⟨_, _, rfl, by decide⟩

theorem reads_unspaced (depth : Nat) : Reads Literal.Stops (unspaced depth) (Written depth) := by
  induction depth with
  | zero => exact reads_scalar
  | succ d ih =>
    have hvalue : Reads Literal.Stops (value d) (Led (Written d)) := by
      rw [funext (value_eq d)]
      exact ih.skip Written.head
    have hitems := reads_items hvalue value_closing (value_skipSpace d)
    have hmembers := reads_members hvalue
    refine ⟨fun h => ?_, fun {_ rest _} hw hstop => ?_⟩
    · rw [unspaced] at h
      dsimp only at h
      split at h
      · obtain ⟨⟨xs, rest⟩, hxs, h⟩ := bind_eq_ok.mp h
        cases h
        obtain ⟨inside, rfl, hinside⟩ := hitems.sound hxs
        exact ⟨'[' :: inside, rfl, .inr (.inl ⟨inside, _, hinside, rfl, rfl⟩)⟩
      · obtain ⟨⟨ms, rest⟩, hms, h⟩ := bind_eq_ok.mp h
        cases h
        obtain ⟨inside, rfl, hinside⟩ := hmembers.sound hms
        exact ⟨'\x7b' :: inside, rfl, .inr (.inr ⟨inside, _, hinside, rfl, Value.eq_object_iff.mp rfl⟩)⟩
      · obtain ⟨taken, hcs, hs⟩ := reads_scalar.sound h
        exact ⟨taken, hcs, .inl hs⟩
    · obtain hs | ⟨inside, vs, hinside, rfl, rfl⟩ | ⟨inside, ms, hinside, rfl, hms⟩ := hw
      · have hread := reads_scalar.complete hs hstop
        obtain ⟨c, more, rfl, hc⟩ := hs.head
        rw [← hread, List.cons_append, ← value_eq_scalar (d + 1) hc, value_eq, skipSpace_cons hc.space]
      · exact bind_eq_ok.mpr ⟨_, hitems.complete hinside trivial, rfl⟩
      · rw [Value.eq_object_iff.mpr hms]
        exact bind_eq_ok.mpr ⟨_, hmembers.complete hinside trivial, rfl⟩

/-- A value is read as far as its text goes, unless it is a number that what follows carries further. -/
theorem reads_value (depth : Nat) : Reads Literal.Stops (value depth) (Led (Written depth)) := by
  rw [funext (value_eq depth)]
  exact (reads_unspaced depth).skip Written.head

/-- A whole text is read if it is such a token with white space around it. -/
theorem Reads.whole {p : Step α} {G : List Char → α → Prop} (hp : Reads Literal.Stops p (Led G)) {cs : List Char}
    {a : α} : Json.whole p cs = .ok a ↔ Spaced G cs a := by
  have hspaces (rest : List Char) : (skipSpace rest).isEmpty = true ↔ Spaces rest := by
    rw [List.isEmpty_iff, skipSpace, List.dropWhile_eq_nil_iff]
    rfl
  unfold Json.whole
  refine ⟨fun h => ?_, fun h => ?_⟩
  · obtain ⟨⟨b, rest⟩, hb, h⟩ := bind_eq_ok.mp h
    dsimp only at h
    split at h
    · rename_i hrest
      cases h
      obtain ⟨taken, rfl, hled⟩ := hp.sound hb
      exact .space hled ((hspaces rest).mp hrest)
    · cases h
  · obtain @⟨inner, space, _, hled, hs⟩ := h
    have hstop : Literal.Stops space := by
      cases space with
      | nil => exact Literal.stops_nil
      | cons d ds => exact stops_space (hs d List.mem_cons_self) ds
    refine bind_eq_ok.mpr ⟨_, hp.complete hled hstop, ?_⟩
    dsimp only
    rw [if_pos ((hspaces space).mpr hs)]
    rfl

end ScriptLink.Json

namespace ScriptLink.Value

open ScriptLink.Json

/-- **Accepted texts**: a text is read as a value if and only if it is a document of it. -/
theorem readChars_eq_ok_iff {cs : List Char} {v : Value} : readChars cs = .ok v ↔ Document cs v := by
  unfold readChars Document
  rw [← maxDepth_eq]
  exact (reads_value maxDepth).whole

theorem ofText?_eq_some_iff {s : String} {v : Value} : ofText? s = some v ↔ Document s.toList v := by
  rw [← readChars_eq_ok_iff]
  unfold ofText? read
  cases readChars s.toList <;> simp

end ScriptLink.Value

namespace ScriptLink.Json

/-- A text is a document of one value at most. -/
theorem Document.unique {cs : List Char} {v w : Value} (hv : Document cs v) (hw : Document cs w) : v = w := by
  rw [← Value.readChars_eq_ok_iff] at hv hw
  exact Except.ok.inj (hv.symm.trans hw)

end ScriptLink.Json
