import ScriptLink.Json.Shape
import ScriptLink.Proofs.Json.Acceptance

/-!
# ScriptLink.Proofs.Json.Record — a record is read from the values that stand in the text

A text that is to hold a certain shape is read in that shape, and no value is built in between. It is all the same as
reading the values and looking at them afterwards.

* `Takes depth p w`: the step `p` takes exactly the values that are written for something by `w`. It holds of texts,
  of what may be `null`, and of lists (`takes_text`, `Takes.optional`, `Takes.listOf`).
* `Shape.Puts` says what the fields of a shape take, and `Fills` what members make of a record one after the other,
  none of a key that is not known or came before.
* `reads_record`: a record is read from an object whose members fill it, and from an array whose items fill it under
  the names of the fields in order.
-/

namespace ScriptLink.Json

open ScriptLink.Number (Literal)

/-! ## Lists -/

section

variable {closing : Char} {p : Step α} {q : Step β} {w : α → β} {loop : Nat → Step (List α)}
  {loop' : Nat → Step (List β)} {list : Step (List α)} {list' : Step (List β)}
  (hw : ∀ cs x rest, p cs = .ok (x, rest) ↔ q cs = .ok (w x, rest))
  (hr : Rounds closing p loop) (hr' : Rounds closing q loop')
include hw hr hr'

/-- Loops whose items correspond give lists that correspond. -/
theorem Rounds.map (n : Nat) (cs : List Char) (xs : List α) (rest : List Char) :
    loop n cs = .ok (xs, rest) ↔ loop' n cs = .ok (xs.map w, rest) := by
  induction n generalizing cs xs with
  | zero => exact ⟨fun h => absurd h (hr.zero cs _), fun h => absurd h (hr'.zero cs _)⟩
  | succ n ih =>
    rw [hr.succ, hr'.succ]
    constructor
    · rintro ⟨space, hs, ⟨rfl, rfl⟩ | ⟨more, x, after, ys, rfl, hx, hys, rfl⟩⟩
      · exact ⟨space, hs, .inl ⟨rfl, rfl⟩⟩
      · exact ⟨space, hs, .inr ⟨more, w x, after, ys.map w, rfl, (hw _ _ _).mp hx, (ih _ _).mp hys, rfl⟩⟩
    · rintro ⟨space, hs, ⟨rfl, hxs⟩ | ⟨more, y, after, ys, rfl, hy, hys, hxs⟩⟩
      · exact ⟨space, hs, .inl ⟨rfl, List.map_eq_nil_iff.mp hxs⟩⟩
      · obtain ⟨x, zs, rfl, rfl, rfl⟩ := List.map_eq_cons_iff.mp hxs
        exact ⟨space, hs, .inr ⟨more, x, after, zs, rfl, (hw _ _ _).mpr hy, (ih _ _).mpr hys, rfl⟩⟩

theorem Listed.map (hl : Listed closing p loop list) (hl' : Listed closing q loop' list') (cs : List Char)
    (xs : List α) (rest : List Char) : list cs = .ok (xs, rest) ↔ list' cs = .ok (xs.map w, rest) := by
  rw [hl, hl']
  constructor
  · rintro (⟨space, hs, rfl, rfl⟩ | ⟨x, after, ys, hx, hys, rfl⟩)
    · exact .inl ⟨space, hs, rfl, rfl⟩
    · exact .inr ⟨w x, after, ys.map w, (hw _ _ _).mp hx, (hr.map hw hr' _ _ _ _).mp hys, rfl⟩
  · rintro (⟨space, hs, rfl, hxs⟩ | ⟨y, after, ys, hy, hys, hxs⟩)
    · exact .inl ⟨space, hs, rfl, List.map_eq_nil_iff.mp hxs⟩
    · obtain ⟨x, zs, rfl, rfl, rfl⟩ := List.map_eq_cons_iff.mp hxs
      exact .inr ⟨x, after, zs, (hw _ _ _).mpr hy, (hr.map hw hr' _ _ _ _).mpr hys, rfl⟩

end

/-! ## Single values -/

/-- The step takes exactly the values that are written for something. -/
def Takes (depth : Nat) (p : Step α) (w : α → Value) : Prop :=
  ∀ cs x rest, p cs = .ok (x, rest) ↔ value depth cs = .ok (w x, rest)

/-- The character with which a value begins, if it tells the kind of the value. -/
def opening? : Value → Option Char
  | .null => some 'n'
  | .str _ => some '"'
  | .arr _ => some '['
  | .obj _ => some '\x7b'
  | _ => none

theorem Written.opening {depth : Nat} {cs : List Char} {v : Value} (h : Written depth cs v) :
    ∀ c ∈ opening? v, cs.head? = some c := by
  have hscalar (hs : Scalar cs v) : ∀ c ∈ opening? v, cs.head? = some c := by
    rintro c hc
    cases hs <;> cases hc <;> rfl
  cases depth with
  | zero => exact hscalar h
  | succ d =>
    obtain hs | ⟨_, _, -, rfl, rfl⟩ | ⟨_, _, -, rfl, ⟨_, rfl, -⟩⟩ := h
    · exact hscalar hs
    · rintro c ⟨⟩
      rfl
    · rintro c ⟨⟩
      rfl

/-- A value is written in front of what is left after it. -/
theorem written_of_value {depth : Nat} {cs rest : List Char} {v : Value} (h : value depth cs = .ok (v, rest)) :
    ∃ taken, skipSpace cs = taken ++ rest ∧ Written depth taken v := by
  rw [value_eq] at h
  exact (reads_unspaced depth).sound h

/-- What a value begins with, is the next character that is no white space. -/
theorem head?_of_value {depth : Nat} {cs rest : List Char} {v : Value} (h : value depth cs = .ok (v, rest)) :
    ∀ c ∈ opening? v, (skipSpace cs).head? = some c := by
  intro c hc
  obtain ⟨taken, hcs, hw⟩ := written_of_value h
  obtain ⟨more, rfl⟩ := List.head?_eq_some_iff.mp (hw.opening c hc)
  rw [hcs]
  rfl

/-- A value takes at least one character. -/
theorem length_lt_of_value {depth : Nat} {cs rest : List Char} {v : Value} (h : value depth cs = .ok (v, rest)) :
    rest.length < cs.length := by
  obtain ⟨taken, hcs, hw⟩ := written_of_value h
  obtain ⟨c, more, rfl, -⟩ := hw.head
  have hlength := congrArg List.length hcs
  have hskip : (skipSpace cs).length ≤ cs.length := List.length_dropWhile_le _ _
  simp only [List.length_append, List.length_cons] at hlength
  omega

/-- What a literal stands for makes no difference to what it is. -/
theorem literal_of_literal {v u : α} {word cs rest : List Char} (h : literal v word cs = .ok (u, rest)) (b : β) :
    literal b word cs = .ok (b, rest) := by
  obtain rfl := of_literal h
  induction word with
  | nil => rfl
  | cons c word ih =>
    rw [List.cons_append, literal, if_pos rfl] at h ⊢
    exact ih h

theorem takes_text (depth : Nat) : Takes depth text .str := by
  intro cs s rest
  unfold text
  split
  · rename_i more hcs
    rw [value_eq, hcs, ← skipSpace_cons (c := '"') (by decide), ← value_eq,
      value_eq_scalar depth (by constructor <;> decide)]
    refine ⟨fun h => bind_eq_ok.mpr ⟨_, h, rfl⟩, fun h => ?_⟩
    obtain ⟨⟨t, after⟩, ht, h⟩ := bind_eq_ok.mp h
    cases h
    exact ht
  · rename_i hcs
    refine ⟨nofun, fun h => ?_⟩
    obtain ⟨more, hmore⟩ := List.head?_eq_some_iff.mp (head?_of_value h _ rfl)
    exact absurd hmore (hcs more)

section

variable {depth : Nat} {p : Step α} {w : α → Value} (hp : Takes depth p w)
include hp

theorem Takes.skip (cs : List Char) (x : α) (rest : List Char) :
    p (skipSpace cs) = .ok (x, rest) ↔ value depth cs = .ok (w x, rest) := by
  rw [hp, value_skipSpace]

/-- No value begins with a closing bracket. -/
theorem Takes.closing {cs : List Char} {q : Taken α} : p (']' :: cs) ≠ .ok q := by
  obtain ⟨x, rest⟩ := q
  rw [Ne, hp]
  exact value_closing

theorem Takes.optional (hnull : ∀ x, w x ≠ .null) : Takes depth (optional p) fun o => o.elim .null w := by
  intro cs o rest
  unfold Json.optional
  split
  · rename_i more hcs
    have hvalue : value depth cs = literal .null ['u', 'l', 'l'] more := by
      rw [value_eq, hcs, ← skipSpace_cons (c := 'n') (by decide), ← value_eq,
        value_eq_scalar depth (by constructor <;> decide)]
      rfl
    rw [hvalue]
    cases o with
    | none => exact ⟨fun h => literal_of_literal h _, fun h => literal_of_literal h _⟩
    | some x => exact ⟨fun h => absurd (literal_eq h) nofun, fun h => absurd (literal_eq h) (hnull x)⟩
  · rename_i hcs
    constructor
    · intro h
      obtain ⟨⟨x, after⟩, hx, h⟩ := bind_eq_ok.mp h
      cases h
      exact (hp.skip _ _ _).mp hx
    · intro h
      cases o with
      | none =>
        obtain ⟨more, hmore⟩ := List.head?_eq_some_iff.mp (head?_of_value h _ rfl)
        exact absurd hmore (hcs more)
      | some x => exact bind_eq_ok.mpr ⟨_, (hp.skip _ _ _).mpr h, rfl⟩

/-- The items of a list are those that the values in the list are written for. -/
theorem Takes.items (cs : List Char) (xs : List α) (rest : List Char) :
    items p cs = .ok (xs, rest) ↔ Json.items (value depth) cs = .ok (xs.map w, rest) :=
  Listed.map (fun cs => hp (skipSpace cs)) (rounds_laterItems hp.closing) (rounds_laterItems value_closing)
    (listed_items hp.closing) (listed_items value_closing) cs xs rest

theorem Takes.listOf : Takes (depth + 1) (listOf p) fun xs => .arr (xs.map w) := by
  intro cs xs rest
  unfold Json.listOf
  split
  · rename_i more hcs
    rw [hp.items, value_eq, hcs]
    refine ⟨fun h => bind_eq_ok.mpr ⟨_, h, rfl⟩, fun h => ?_⟩
    obtain ⟨⟨vs, after⟩, hvs, h⟩ := bind_eq_ok.mp h
    cases h
    exact hvs
  · rename_i hcs
    refine ⟨nofun, fun h => ?_⟩
    obtain ⟨more, hmore⟩ := List.head?_eq_some_iff.mp (head?_of_value h _ rfl)
    exact absurd hmore (hcs more)

/-- A field is read from the values that its step takes. -/
theorem Takes.field (name : String) (put : ρ → α → ρ) (r : ρ) (cs : List Char) (next : ρ) (rest : List Char) :
    (Field.of name p put).read r cs = .ok (next, rest) ↔
      ∃ x, value depth cs = .ok (w x, rest) ∧ next = put r x := by
  constructor
  · intro h
    obtain ⟨⟨x, after⟩, hx, h⟩ := bind_eq_ok.mp h
    cases h
    exact ⟨x, (hp _ _ _).mp hx, rfl⟩
  · rintro ⟨x, hx, rfl⟩
    exact bind_eq_ok.mpr ⟨_, (hp _ _ _).mpr hx, rfl⟩

end

/-! ## Members -/

/-- What members make of a record, one after the other, where `sets` says what one of them makes of it. None has a key
that is not among the names, or one that was there before. -/
inductive Fills (names : List String) (sets : ρ → String × Value → ρ → Prop) :
    Progress ρ → List (String × Value) → ρ → Prop
  | nil {r : ρ} {seen : List String} : Fills names sets (r, seen) [] r
  | cons {r next last : ρ} {seen : List String} {m : String × Value} {ms : List (String × Value)} :
      m.1 ∈ names → m.1 ∉ seen → sets r m next → Fills names sets (next, m.1 :: seen) ms last →
      Fills names sets (r, seen) (m :: ms) last

/-- Without members the record stays as it is. -/
theorem fills_nil_iff {names : List String} {sets : ρ → String × Value → ρ → Prop} (p : Progress ρ) {r : ρ}
    {cs rest : List Char} : (.ok (p.1, cs) : Except ReadError (Taken ρ)) = .ok (r, rest) ↔
      ∃ ms, (.ok ([], cs) : Except ReadError (Taken (List (String × Value)))) = .ok (ms, rest) ∧
        Fills names sets p ms r := by
  constructor
  · intro h
    cases h
    exact ⟨[], rfl, .nil⟩
  · rintro ⟨_, hms, hfills⟩
    cases hms
    cases hfills
    rfl

theorem colon_eq_ok {cs rest : List Char} : colon cs = .ok rest ↔ skipSpace cs = ':' :: rest := by
  unfold colon
  split
  · rename_i more hcs
    rw [hcs]
    exact ⟨fun h => congrArg _ (Except.ok.inj h), fun h => congrArg _ (List.cons.inj h).2⟩
  · rename_i hcs
    exact ⟨nofun, fun h => absurd h (hcs rest)⟩

namespace Shape

def names (shape : Shape ρ) : List String := shape.fields.map Field.name

/-- The fields of the shape take what `sets` says of the values under their names. Other keys are refused, and an
array may be too short. -/
structure Puts (shape : Shape ρ) (depth : Nat) (sets : ρ → String × Value → ρ → Prop) : Prop where
  lenient : shape.lenient = false
  complete : shape.complete = false
  distinct : shape.names.Nodup
  field : ∀ f ∈ shape.fields, ∀ r cs next rest, f.read r cs = .ok (next, rest) ↔
    ∃ v, value depth cs = .ok (v, rest) ∧ sets r (f.name, v) next

variable {shape : Shape ρ} {depth : Nat} {sets : ρ → String × Value → ρ → Prop} (h : shape.Puts depth sets)
include h

/-- What follows the key of a member. -/
theorem Puts.entry (key : String) (p q : Progress ρ) (cs rest : List Char) :
    shape.entry key p cs = .ok (q, rest) ↔ key ∈ shape.names ∧ key ∉ p.2 ∧ ∃ more, skipSpace cs = ':' :: more ∧
      ∃ v, value depth more = .ok (v, rest) ∧ sets p.1 (key, v) q.1 ∧ q.2 = key :: p.2 := by
  unfold Shape.entry
  split
  · rename_i hf
    have hkey : key ∉ shape.names := by
      intro hmem
      obtain ⟨f, hfield, rfl⟩ := List.mem_map.mp hmem
      exact List.find?_eq_none.mp hf f hfield (beq_self_eq_true _)
    rw [h.lenient, if_neg Bool.false_ne_true]
    exact ⟨nofun, fun hq => absurd hq.1 hkey⟩
  · rename_i f hf
    have hfield : f ∈ shape.fields := List.mem_of_find?_eq_some hf
    obtain rfl : f.name = key := by simpa using List.find?_some hf
    have hkey : f.name ∈ shape.names := List.mem_map_of_mem hfield
    split
    · rename_i hseen
      exact ⟨nofun, fun hq => absurd (List.contains_iff_mem.mp hseen) hq.2.1⟩
    · rename_i hseen
      rw [List.contains_iff_mem] at hseen
      constructor
      · intro hq
        obtain ⟨more, hmore, hq⟩ := bind_eq_ok.mp hq
        obtain ⟨⟨next, after⟩, hnext, hq⟩ := bind_eq_ok.mp hq
        cases hq
        obtain ⟨v, hv, hsets⟩ := (h.field f hfield _ _ _ _).mp hnext
        exact ⟨hkey, hseen, more, colon_eq_ok.mp hmore, v, hv, hsets, rfl⟩
      · rintro ⟨-, -, more, hmore, v, hv, hsets, hq⟩
        refine bind_eq_ok.mpr ⟨more, colon_eq_ok.mpr hmore, bind_eq_ok.mpr ⟨(q.1, rest), ?_, ?_⟩⟩
        · exact (h.field f hfield _ _ _ _).mpr ⟨v, hv, hsets⟩
        · rw [← hq]
          rfl

theorem Puts.member (p q : Progress ρ) (cs rest : List Char) : shape.member p cs = .ok (q, rest) ↔
    ∃ m, Json.member string (value depth) cs = .ok (m, rest) ∧ m.1 ∈ shape.names ∧ m.1 ∉ p.2 ∧
      sets p.1 m q.1 ∧ q.2 = m.1 :: p.2 := by
  constructor
  · intro hq
    unfold Shape.member at hq
    split at hq
    · obtain ⟨⟨key, after⟩, hkey, hq⟩ := bind_eq_ok.mp hq
      obtain ⟨hknown, hnew, more, hmore, v, hv, hsets, hseen⟩ := (h.entry _ _ _ _ _).mp hq
      exact ⟨(key, v), member_eq_ok.mpr ⟨_, after, more, rfl, hkey, hmore, hv⟩, hknown, hnew, hsets, hseen⟩
    · cases hq
  · rintro ⟨⟨key, v⟩, hm, hknown, hnew, hsets, hseen⟩
    obtain ⟨_, after, more, rfl, hkey, hmore, hv⟩ := member_eq_ok.mp hm
    exact bind_eq_ok.mpr ⟨_, hkey, (h.entry _ _ _ _ _).mpr ⟨hknown, hnew, more, hmore, v, hv, hsets, hseen⟩⟩

/-- A member and those after it, if those after it are read alike. -/
theorem Puts.memberThen {loop : Progress ρ → Step ρ} {list : Step (List (String × Value))}
    (hloop : ∀ p cs r rest, loop p cs = .ok (r, rest) ↔
      ∃ ms, list cs = .ok (ms, rest) ∧ Fills shape.names sets p ms r)
    (p : Progress ρ) (cs : List Char) (r : ρ) (rest : List Char) :
    (shape.member p cs >>= fun q => loop q.1 q.2) = .ok (r, rest) ↔
      ∃ ms, (Json.member string (value depth) cs >>= fun m => list m.2 >>= fun ms => pure (m.1 :: ms.1, ms.2)) =
        .ok (ms, rest) ∧ Fills shape.names sets p ms r := by
  constructor
  · intro hr
    obtain ⟨⟨q, after⟩, hq, hr⟩ := bind_eq_ok.mp hr
    obtain ⟨m, hm, hknown, hnew, hsets, hseen⟩ := (h.member _ _ _ _).mp hq
    obtain ⟨ms, hms, hfills⟩ := (hloop _ _ _ _).mp hr
    refine ⟨m :: ms, bind_eq_ok.mpr ⟨_, hm, bind_eq_ok.mpr ⟨_, hms, rfl⟩⟩, .cons hknown hnew hsets ?_⟩
    rw [← hseen]
    exact hfills
  · rintro ⟨_, hms, hfills⟩
    obtain ⟨⟨m, after⟩, hm, hms⟩ := bind_eq_ok.mp hms
    obtain ⟨⟨ms, _⟩, hlater, hms⟩ := bind_eq_ok.mp hms
    cases hms
    cases hfills with
    | @cons _ next _ _ _ _ hknown hnew hsets hfills =>
      exact bind_eq_ok.mpr ⟨((next, _), after), (h.member _ _ _ _).mpr ⟨m, hm, hknown, hnew, hsets, rfl⟩,
        (hloop _ _ _ _).mpr ⟨ms, hlater, hfills⟩⟩

theorem Puts.laterMembers (n : Nat) (p : Progress ρ) (cs : List Char) (r : ρ) (rest : List Char) :
    shape.laterMembers n p cs = .ok (r, rest) ↔
      ∃ ms, Json.laterMembers string (value depth) n cs = .ok (ms, rest) ∧ Fills shape.names sets p ms r := by
  induction n generalizing p cs r rest with
  | zero => simp [Shape.laterMembers, Json.laterMembers]
  | succ n ih =>
    unfold Shape.laterMembers
    split
    · rename_i hcs
      rw [Json.laterMembers, hcs]
      exact fills_nil_iff p
    · rename_i hcs
      rw [Json.laterMembers, hcs]
      exact h.memberThen ih _ _ _ _
    · rename_i hclosing hcomma
      have hstuck : Json.laterMembers string (value depth) (n + 1) cs = .error (stuck (skipSpace cs)) := by
        unfold Json.laterMembers
        split
        · rename_i hcs
          exact absurd hcs (hclosing _)
        · rename_i hcs
          exact absurd hcs (hcomma _)
        · rfl
      simp [hstuck]

theorem Puts.members (start r : ρ) (cs rest : List Char) : shape.members start cs = .ok (r, rest) ↔
    ∃ ms, Json.members string (value depth) cs = .ok (ms, rest) ∧ Fills shape.names sets (start, []) ms r := by
  unfold Shape.members
  split
  · rename_i hcs
    rw [Json.members, hcs]
    exact fills_nil_iff (start, [])
  · rename_i hclosing
    rw [h.memberThen fun p cs => h.laterMembers (cs.length + 1) p cs]
    unfold Json.members
    split
    · rename_i hcs
      exact absurd hcs (hclosing _)
    · rfl

omit h in
theorem close_eq_ok {r last : ρ} {cs rest : List Char} : close r cs = .ok (last, rest) ↔
    ∃ space, Spaces space ∧ cs = space ++ ']' :: rest ∧ last = r := by
  unfold close
  constructor
  · intro hlast
    split at hlast
    · rename_i hcs
      cases hlast
      obtain ⟨-, space, hs, rfl⟩ := of_skipSpace hcs
      exact ⟨space, hs, rfl, rfl⟩
    · cases hlast
  · rintro ⟨space, hs, rfl, rfl⟩
    rw [skipSpace_spaces hs, skipSpace_cons (by decide)]
    rfl

section

variable {f : Field ρ} (hf : f ∈ shape.fields)
include hf

/-- A field is read from a value, so not where a comma or a closing bracket stands. -/
theorem Puts.field_ne {r : ρ} {q : Taken ρ} {c : Char} (hc : c = ']' ∨ c = ',') {cs : List Char} :
    f.read r (c :: cs) ≠ .ok q := by
  intro hq
  obtain ⟨next, after⟩ := q
  obtain ⟨v, hv, -⟩ := (h.field f hf _ _ _ _).mp hq
  obtain rfl | rfl := hc <;> cases depth <;> (rw [value, skipSpace_cons (by decide)] at hv; cases hv)

/-- Where other items were before, an array ends, or a comma and an item for the next field follow. -/
theorem Puts.itemsFor_later (fs : List (Field ρ)) (r last : ρ) (cs rest : List Char) :
    shape.itemsFor false (f :: fs) r cs = .ok (last, rest) ↔ ∃ space, Spaces space ∧
      ((cs = space ++ ']' :: rest ∧ last = r) ∨ ∃ more next after, cs = space ++ ',' :: more ∧
        f.read r (skipSpace more) = .ok (next, after) ∧ shape.itemsFor false fs next after = .ok (last, rest)) := by
  rw [Shape.itemsFor, h.complete]
  constructor
  · intro hlast
    split at hlast
    · rename_i hcs
      cases hlast
      obtain ⟨-, space, hs, rfl⟩ := of_skipSpace hcs
      exact ⟨space, hs, .inl ⟨rfl, rfl⟩⟩
    · rename_i more hcs
      obtain ⟨-, space, hs, rfl⟩ := of_skipSpace hcs
      rw [if_neg Bool.false_ne_true] at hlast
      split at hlast
      · cases hlast
      · obtain ⟨⟨next, after⟩, hnext, hlast⟩ := bind_eq_ok.mp hlast
        exact ⟨space, hs, .inr ⟨more, next, after, rfl, hnext, hlast⟩⟩
    · cases hlast
  · rintro ⟨space, hs, ⟨rfl, rfl⟩ | ⟨more, next, after, rfl, hnext, hlast⟩⟩
    · rw [skipSpace_spaces hs, skipSpace_cons (by decide)]
      rfl
    · rw [skipSpace_spaces hs, skipSpace_cons (by decide)]
      simp only [Bool.false_eq_true, if_false]
      split
      · rename_i heq
        rw [heq] at hnext
        exact absurd hnext (h.field_ne hf (.inl rfl))
      · exact bind_eq_ok.mpr ⟨_, hnext, hlast⟩

/-- At its beginning an array ends, or an item for the first field follows. -/
theorem Puts.itemsFor_first (fs : List (Field ρ)) (r last : ρ) (cs rest : List Char) :
    shape.itemsFor true (f :: fs) r cs = .ok (last, rest) ↔
      (∃ space, Spaces space ∧ cs = space ++ ']' :: rest ∧ last = r) ∨ ∃ next after,
        f.read r (skipSpace cs) = .ok (next, after) ∧ shape.itemsFor false fs next after = .ok (last, rest) := by
  rw [Shape.itemsFor, h.complete]
  constructor
  · intro hlast
    split at hlast
    · rename_i hcs
      cases hlast
      obtain ⟨-, space, hs, rfl⟩ := of_skipSpace hcs
      exact .inl ⟨space, hs, rfl, rfl⟩
    · cases hlast
    · rw [if_pos rfl] at hlast
      obtain ⟨⟨next, after⟩, hnext, hlast⟩ := bind_eq_ok.mp hlast
      exact .inr ⟨next, after, hnext, hlast⟩
  · rintro (⟨space, hs, rfl, rfl⟩ | ⟨next, after, hnext, hlast⟩)
    · rw [skipSpace_spaces hs, skipSpace_cons (by decide)]
      rfl
    · split
      · rename_i heq
        rw [heq] at hnext
        exact absurd hnext (h.field_ne hf (.inl rfl))
      · rename_i heq
        rw [heq] at hnext
        exact absurd hnext (h.field_ne hf (.inr rfl))
      · rw [if_pos rfl]
        exact bind_eq_ok.mpr ⟨_, hnext, hlast⟩

end

omit h in
theorem fills_end_iff {keys : List String} {r last : ρ} {seen : List String} :
    Fills shape.names sets (r, seen) (keys.zip []) last ↔ last = r := by
  rw [List.zip_nil_right]
  exact ⟨fun hfills => by cases hfills; rfl, fun he => he ▸ .nil⟩

/-- An item is taken for a field, and those after it for the fields after that. -/
theorem Puts.itemThen {f : Field ρ} (hf : f ∈ shape.fields) {fs : List (Field ρ)} {seen : List String}
    (hnew : f.name ∉ seen) {m : List Char → Nat} {cs rest : List Char} {r last : ρ}
    (hlater : ∀ next after, after.length < cs.length → (shape.itemsFor false fs next after = .ok (last, rest) ↔
      ∃ vs, laterItems (value depth) (m after) after = .ok (vs, rest) ∧ vs.length ≤ fs.length ∧
        Fills shape.names sets (next, f.name :: seen) ((fs.map Field.name).zip vs) last)) :
    (∃ next after, f.read r cs = .ok (next, after) ∧ shape.itemsFor false fs next after = .ok (last, rest)) ↔
      ∃ v after vs, value depth cs = .ok (v, after) ∧ laterItems (value depth) (m after) after = .ok (vs, rest) ∧
        (v :: vs).length ≤ (f :: fs).length ∧
        Fills shape.names sets (r, seen) (((f :: fs).map Field.name).zip (v :: vs)) last := by
  constructor
  · rintro ⟨next, after, hnext, hlast⟩
    obtain ⟨v, hv, hsets⟩ := (h.field f hf _ _ _ _).mp hnext
    obtain ⟨vs, hvs, hlength, hfills⟩ := (hlater next after (length_lt_of_value hv)).mp hlast
    exact ⟨v, after, vs, hv, hvs, Nat.succ_le_succ hlength, .cons (List.mem_map_of_mem hf) hnew hsets hfills⟩
  · rintro ⟨v, after, vs, hv, hvs, hlength, hfills⟩
    cases hfills with
    | @cons _ next _ _ _ _ _ _ hsets hfills =>
      exact ⟨next, after, (h.field f hf _ _ _ _).mpr ⟨v, hv, hsets⟩,
        (hlater next after (length_lt_of_value hv)).mpr ⟨vs, hvs, Nat.le_of_succ_le_succ hlength, hfills⟩⟩

/-- The items after the first are taken for the fields that are left. -/
theorem Puts.laterItems {fs : List (Field ρ)} (hfs : ∀ f ∈ fs, f ∈ shape.fields)
    (hdistinct : (fs.map Field.name).Nodup) {seen : List String} (hnew : ∀ f ∈ fs, f.name ∉ seen) {n : Nat}
    {cs : List Char} (hn : cs.length < n) (r last : ρ) (rest : List Char) :
    shape.itemsFor false fs r cs = .ok (last, rest) ↔
      ∃ vs, Json.laterItems (value depth) n cs = .ok (vs, rest) ∧ vs.length ≤ fs.length ∧
        Fills shape.names sets (r, seen) ((fs.map Field.name).zip vs) last := by
  have hrounds := rounds_laterItems (@value_closing depth)
  induction fs generalizing seen n cs r with
  | nil =>
    obtain ⟨n, rfl⟩ := Nat.exists_eq_succ_of_ne_zero (Nat.ne_zero_of_lt hn)
    rw [Shape.itemsFor, close_eq_ok]
    constructor
    · rintro ⟨space, hs, rfl, rfl⟩
      exact ⟨[], (hrounds.succ _ _ _ _).mpr ⟨space, hs, .inl ⟨rfl, rfl⟩⟩, Nat.le_refl 0, fills_end_iff.mpr rfl⟩
    · rintro ⟨vs, hvs, hlength, hfills⟩
      obtain rfl := List.eq_nil_of_length_eq_zero (Nat.le_zero.mp hlength)
      obtain ⟨space, hs, ⟨rfl, -⟩ | ⟨_, _, _, _, -, -, -, hne⟩⟩ := (hrounds.succ _ _ _ _).mp hvs
      · exact ⟨space, hs, rfl, fills_end_iff.mp hfills⟩
      · cases hne
  | cons f fs ih =>
    obtain ⟨n, rfl⟩ := Nat.exists_eq_succ_of_ne_zero (Nat.ne_zero_of_lt hn)
    obtain ⟨hf, hfs⟩ := List.forall_mem_cons.mp hfs
    obtain ⟨hname, hdistinct⟩ := List.nodup_cons.mp hdistinct
    obtain ⟨hfirst, hnew⟩ := List.forall_mem_cons.mp hnew
    have hnew' : ∀ g ∈ fs, g.name ∉ f.name :: seen := by
      intro g hg
      rw [List.mem_cons, not_or]
      exact ⟨fun he => hname (he ▸ List.mem_map_of_mem hg), hnew g hg⟩
    have hshort {space more after : List Char} (hcs : cs = space ++ ',' :: more)
        (hafter : after.length < (skipSpace more).length) : after.length < n := by
      have hskip : (skipSpace more).length ≤ more.length := List.length_dropWhile_le _ _
      rw [hcs, List.length_append, List.length_cons] at hn
      omega
    rw [h.itemsFor_later hf]
    constructor
    · rintro ⟨space, hs, ⟨rfl, rfl⟩ | ⟨more, next, after, hcs, hnext, hlast⟩⟩
      · exact ⟨[], (hrounds.succ _ _ _ _).mpr ⟨space, hs, .inl ⟨rfl, rfl⟩⟩, Nat.zero_le _, fills_end_iff.mpr rfl⟩
      · obtain ⟨v, after, vs, hv, hvs, hfills⟩ := (h.itemThen hf hfirst fun next after hafter =>
          ih hfs hdistinct hnew' (hshort hcs hafter) next).mp ⟨next, after, hnext, hlast⟩
        exact ⟨v :: vs, (hrounds.succ _ _ _ _).mpr ⟨space, hs, .inr ⟨more, v, after, vs, hcs, hv, hvs, rfl⟩⟩, hfills⟩
    · rintro ⟨_, hvs, hlength, hfills⟩
      obtain ⟨space, hs, ⟨rfl, rfl⟩ | ⟨more, v, after, vs, hcs, hv, hlater, rfl⟩⟩ := (hrounds.succ _ _ _ _).mp hvs
      · exact ⟨space, hs, .inl ⟨rfl, fills_end_iff.mp hfills⟩⟩
      · obtain ⟨next, after, hnext, hlast⟩ := (h.itemThen hf hfirst fun next after hafter =>
          ih hfs hdistinct hnew' (hshort hcs hafter) next).mpr ⟨v, after, vs, hv, hlater, hlength, hfills⟩
        exact ⟨space, hs, .inr ⟨more, next, after, hcs, hnext, hlast⟩⟩

/-- The items of an array are taken for the fields in order, and there are no more of them than fields. -/
theorem Puts.items {fs : List (Field ρ)} (hfs : ∀ f ∈ fs, f ∈ shape.fields)
    (hdistinct : (fs.map Field.name).Nodup) (r last : ρ) (cs rest : List Char) :
    shape.itemsFor true fs r cs = .ok (last, rest) ↔
      ∃ vs, Json.items (value depth) cs = .ok (vs, rest) ∧ vs.length ≤ fs.length ∧
        Fills shape.names sets (r, []) ((fs.map Field.name).zip vs) last := by
  have hlisted := listed_items (@value_closing depth)
  cases fs with
  | nil =>
    rw [Shape.itemsFor, close_eq_ok]
    constructor
    · rintro ⟨space, hs, rfl, rfl⟩
      exact ⟨[], (hlisted _ _ _).mpr (.inl ⟨space, hs, rfl, rfl⟩), Nat.le_refl 0, fills_end_iff.mpr rfl⟩
    · rintro ⟨vs, hvs, hlength, hfills⟩
      obtain rfl := List.eq_nil_of_length_eq_zero (Nat.le_zero.mp hlength)
      obtain ⟨space, hs, rfl, -⟩ | ⟨_, _, _, -, -, hne⟩ := (hlisted _ _ _).mp hvs
      · exact ⟨space, hs, rfl, fills_end_iff.mp hfills⟩
      · cases hne
  | cons f fs =>
    obtain ⟨hf, hfs⟩ := List.forall_mem_cons.mp hfs
    obtain ⟨hname, hdistinct⟩ := List.nodup_cons.mp hdistinct
    have hnew : ∀ g ∈ fs, g.name ∉ [f.name] := by
      intro g hg
      rw [List.mem_singleton]
      exact fun he => hname (he ▸ List.mem_map_of_mem hg)
    rw [h.itemsFor_first hf, h.itemThen hf List.not_mem_nil fun next after _ =>
      h.laterItems hfs hdistinct hnew (Nat.lt_succ_self after.length) next last rest]
    constructor
    · rintro (⟨space, hs, rfl, rfl⟩ | ⟨v, after, vs, hv, hvs, hfills⟩)
      · exact ⟨[], (hlisted _ _ _).mpr (.inl ⟨space, hs, rfl, rfl⟩), Nat.zero_le _, fills_end_iff.mpr rfl⟩
      · exact ⟨v :: vs, (hlisted _ _ _).mpr (.inr ⟨v, after, vs, hv, hvs, rfl⟩), hfills⟩
    · rintro ⟨_, hvs, hlength, hfills⟩
      obtain ⟨space, hs, rfl, rfl⟩ | ⟨v, after, vs, hv, hlater, rfl⟩ := (hlisted _ _ _).mp hvs
      · exact .inl ⟨space, hs, rfl, fills_end_iff.mp hfills⟩
      · exact .inr ⟨v, after, vs, hv, hlater, hlength, hfills⟩

end Shape

/-! ## Records -/

/-- The text of a record of the shape, without white space around it: an object whose members fill it, or an array
whose items fill it under the names of the fields in order. -/
inductive Recorded (shape : Shape ρ) (depth : Nat) (sets : ρ → String × Value → ρ → Prop) (start : ρ) :
    List Char → ρ → Prop
  | object {inside : List Char} {ms : List (String × Value)} {r : ρ} :
      Closed (Member (Written depth)) '\x7d' inside ms → Fills shape.names sets (start, []) ms r →
      Recorded shape depth sets start ('\x7b' :: inside) r
  | array {inside : List Char} {vs : List Value} {r : ρ} :
      Closed (Written depth) ']' inside vs → vs.length ≤ shape.fields.length →
      Fills shape.names sets (start, []) (shape.names.zip vs) r → Recorded shape depth sets start ('[' :: inside) r

/-- A record is read from the texts that are written for it, and from no others. -/
theorem reads_record {shape : Shape ρ} {depth : Nat} {sets : ρ → String × Value → ρ → Prop}
    (h : shape.Puts depth sets) (start : ρ) :
    Reads Any (record shape start) (Led (Recorded shape depth sets start)) := by
  have hitems := reads_items (reads_value depth) value_closing (value_skipSpace depth)
  have hmembers := reads_members (reads_value depth)
  refine ⟨fun {cs rest r} hr => ?_, fun {taken rest r} hr _ => ?_⟩
  · unfold record at hr
    split at hr
    · rename_i hcs
      obtain ⟨vs, hvs, hlength, hfills⟩ := (h.items (fun f hf => hf) h.distinct _ _ _ _).mp hr
      obtain ⟨inside, rfl, hinside⟩ := hitems.sound hvs
      obtain ⟨-, space, hs, rfl⟩ := of_skipSpace hcs
      exact ⟨space ++ '[' :: inside, by simp, .space hs (.array hinside hlength hfills)⟩
    · rename_i hcs
      obtain ⟨ms, hms, hfills⟩ := (h.members _ _ _ _).mp hr
      obtain ⟨inside, rfl, hinside⟩ := hmembers.sound hms
      obtain ⟨-, space, hs, rfl⟩ := of_skipSpace hcs
      exact ⟨space ++ '\x7b' :: inside, by simp, .space hs (.object hinside hfills)⟩
    · cases hr
  · obtain ⟨hs, hr⟩ := hr
    rw [List.append_assoc, record, skipSpace_spaces hs]
    cases hr with
    | object hinside hfills =>
      rw [List.cons_append, skipSpace_cons (by decide)]
      exact (h.members _ _ _ _).mpr ⟨_, hmembers.complete hinside trivial, hfills⟩
    | array hinside hlength hfills =>
      rw [List.cons_append, skipSpace_cons (by decide)]
      exact (h.items (fun f hf => hf) h.distinct _ _ _ _).mpr ⟨_, hitems.complete hinside trivial, hlength, hfills⟩

end ScriptLink.Json
