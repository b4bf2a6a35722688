import ScriptLink.Proofs.Json.Canonical
import ScriptLink.Proofs.Number.Literal

/-!
# ScriptLink.Proofs.Json.RoundTrip — reading what was written

* `Value.reread` is what the text of a value is read as when nothing but its numbers can go wrong: the
  canonical value with every number reread, or nothing.
* `value_chars`: a reader that allows `depth` nested arrays and objects reads the text of a value as
  just that if the value nests at most so deep, and refuses it otherwise; it leaves what follows.
* `Value.Legible` values are read as their canonical form. Those are legible whose numbers are reread as
  themselves (`Value.Exact`), as integers of 64 bits are (`exact_of_integral`).
* `ofText?_text`: the same for a whole text.
-/

namespace ScriptLink

/-! ## Strings -/

namespace Json

theorem hexWord?_hexDigit : ∀ n < 0x20,
    hexWord? '0' '0' (Value.hexDigit (n / 16)) (Value.hexDigit (n % 16)) = some n := by
  decide

/-- An escaped character is read back. -/
theorem stringChars_escape (c : Char) (rest : List Char) :
    stringChars (Value.escape c ++ rest) = push c (stringChars rest) := by
  unfold Value.escape
  by_cases hq : c = '"'
  · subst hq
    simp [stringChars, escaped?]
  by_cases hb : c = '\\'
  · subst hb
    simp [stringChars, escaped?]
  rw [if_neg hq, if_neg hb]
  by_cases hs : 0x20 ≤ c.toNat
  · rw [if_pos hs, List.cons_append, List.nil_append, stringChars.eq_def]
    have hn : ¬ c.toNat < 0x20 := by omega
    split <;> simp_all only [List.cons.injEq, reduceCtorEq, false_and, if_false]
  rw [if_neg hs]
  -- five control characters have an escape of one letter
  by_cases h1 : c = '\x08'
  · subst h1
    simp [stringChars, escaped?]
  by_cases h2 : c = '\t'
  · subst h2
    simp [stringChars, escaped?]
  by_cases h3 : c = '\n'
  · subst h3
    simp [stringChars, escaped?]
  by_cases h4 : c = '\x0c'
  · subst h4
    simp [stringChars, escaped?]
  by_cases h5 : c = '\r'
  · subst h5
    simp [stringChars, escaped?]
  -- the remaining control characters are written by their number
  have hw := hexWord?_hexDigit c.toNat (by omega)
  have hl : isLead c.toNat = false := by simp [isLead]; omega
  have ht : isTrail c.toNat = false := by simp [isTrail]; omega
  rw [if_neg h1, if_neg h2, if_neg h3, if_neg h4, if_neg h5]
  simp [stringChars, hw, hl, ht]

theorem stringChars_flatMap_escape (cs rest : List Char) :
    stringChars (cs.flatMap Value.escape ++ '"' :: rest) = .ok (cs, rest) := by
  induction cs with
  | nil => simp [stringChars]
  | cons c cs ih => rw [List.flatMap_cons, List.append_assoc, stringChars_escape, ih]; rfl

/-- A quoted string is read back after its quotation mark. -/
theorem string_quoted (s : String) (rest : List Char) :
    ∃ cs, Value.quoted s ++ rest = '"' :: cs ∧ string cs = .ok (s, rest) := by
  refine ⟨s.toList.flatMap Value.escape ++ '"' :: rest, by simp [Value.quoted], ?_⟩
  unfold string
  rw [stringChars_flatMap_escape]
  simp [bind, Except.bind, pure, Except.pure]

end Json

/-! ## What a text is read as -/

namespace Value

mutual

/-- What the text of a value is read as, whatever its depth; nothing if a number in it is not written
as one. -/
def reread : Value → Option Value
  | .num n => n.reread.map .num
  | .arr items => (rereadItems items).map .arr
  | .obj members => (rereadMembers members).map object
  | v => some v

def rereadItems : List Value → Option (List Value)
  | [] => some []
  | v :: rest => (reread v).bind fun w => (rereadItems rest).map (w :: ·)

def rereadMembers : List (String × Value) → Option (List (String × Value))
  | [] => some []
  | (k, v) :: rest => (reread v).bind fun w => (rereadMembers rest).map ((k, w) :: ·)

end

@[simp] theorem reread_str (s : String) : reread (.str s) = some (.str s) := rfl

/-- Every number of the value is reread as itself. -/
def Legible (v : Value) : Prop := v.reread = some v.canonical

end Value

/-! ## Heads of texts -/

theorem Number.chars_head (n : Number) : ∃ c cs, n.chars = c :: cs ∧ (c = '-' ∨ c.isDigit = true) := by
  rw [← Number.chars_literal]
  unfold Number.Literal.chars Number.Literal.signChars Number.Literal.magnitudeChars
  cases n.literal.negative with
  | true => exact ⟨'-', _, rfl, Or.inl rfl⟩
  | false =>
    have h := n.valid_literal
    obtain ⟨d, ds, hd⟩ := List.exists_cons_of_ne_nil h.whole_ne_nil
    refine ⟨d, _, by rw [hd]; rfl, Or.inr ?_⟩
    exact h.whole_digits d (by rw [hd]; exact List.mem_cons_self)

namespace Json

open Value

/-- A character at which a value can begin, other than the brackets. -/
structure Begins (c : Char) : Prop where
  space : isSpace c = false
  bracket : c ≠ '['
  brace : c ≠ '\x7b'
  closing : c ≠ ']'

theorem begins_of_number {c : Char} (h : c = '-' ∨ c.isDigit = true) : Begins c := by
  rcases h with rfl | h
  · constructor <;> decide
  · refine ⟨?_, ?_, ?_, ?_⟩
    · simp only [isSpace, Bool.or_eq_false_iff, beq_eq_false_iff_ne]
      refine ⟨⟨⟨?_, ?_⟩, ?_⟩, ?_⟩ <;> rintro rfl <;> exact absurd h (by decide)
    all_goals rintro rfl; exact absurd h (by decide)

theorem skipSpace_cons {c : Char} (h : isSpace c = false) (cs : List Char) :
    skipSpace (c :: cs) = c :: cs :=
  List.dropWhile_cons_of_neg (by simp [h])

/-- The text of a value begins with a character that is no white space and closes nothing. -/
theorem chars_head (v : Value) : ∃ c cs, v.chars = c :: cs ∧ isSpace c = false ∧ c ≠ ']' := by
  match v with
  | .null => exact ⟨_, _, rfl, by decide⟩
  | .bool true => exact ⟨_, _, rfl, by decide⟩
  | .bool false => exact ⟨_, _, rfl, by decide⟩
  | .num n =>
    obtain ⟨c, cs, h, hc⟩ := n.chars_head
    exact ⟨c, cs, h, (begins_of_number hc).space, (begins_of_number hc).closing⟩
  | .str s => exact ⟨_, _, rfl, by decide⟩
  | .arr [] => exact ⟨_, _, rfl, by decide⟩
  | .arr (_ :: _) => exact ⟨_, _, rfl, by decide⟩
  | .obj [] => exact ⟨_, _, rfl, by decide⟩
  | .obj ((_, _) :: _) => exact ⟨_, _, rfl, by decide⟩

theorem stops_itemChars (items : List Value) (rest : List Char) :
    Number.Literal.Stops (itemChars items ++ rest) := by
  match items with
  | [] => exact Number.Literal.stops_cons _ (by decide)
  | _ :: _ => exact Number.Literal.stops_cons _ (by decide)

theorem stops_memberChars (members : List (String × Value)) (rest : List Char) :
    Number.Literal.Stops (memberChars members ++ rest) := by
  match members with
  | [] => exact Number.Literal.stops_cons _ (by decide)
  | (_, _) :: _ => exact Number.Literal.stops_cons _ (by decide)

theorem length_le_itemChars (items : List Value) : items.length ≤ (itemChars items).length := by
  induction items with
  | nil => simp
  | cons v vs ih =>
    simp only [itemChars, List.length_cons, List.length_append]
    omega

theorem length_le_memberChars (members : List (String × Value)) :
    members.length ≤ (memberChars members).length := by
  induction members with
  | nil => simp
  | cons m ms ih =>
    obtain ⟨k, v⟩ := m
    simp only [memberChars, List.length_cons, List.length_append]
    omega

/-! ## Scalars -/

/-- Where neither array nor object begins, a value is a scalar. -/
theorem value_eq_scalar (depth : Nat) {c : Char} (h : Begins c) (cs : List Char) :
    value depth (c :: cs) = scalar (c :: cs) := by
  cases depth with
  | zero => rw [value, skipSpace_cons h.space]
  | succ d =>
    rw [value, skipSpace_cons h.space]
    split
    · rename_i heq
      exact absurd (List.cons.inj heq).1 h.bracket
    · rename_i heq
      exact absurd (List.cons.inj heq).1 h.brace
    · rfl

theorem scalar_number {c : Char} (h : c = '-' ∨ c.isDigit = true) (cs : List Char) :
    scalar (c :: cs) = (do let (n, rest) ← number (c :: cs); return (.num n, rest)) := by
  have hne : ∀ a : Char, ¬(a = '-' ∨ a.isDigit = true) → c ≠ a := by
    rintro a ha rfl
    exact ha h
  unfold scalar
  split
  · rename_i heq
    exact absurd (List.cons.inj heq).1 (hne 'n' (by decide))
  · rename_i heq
    exact absurd (List.cons.inj heq).1 (hne 't' (by decide))
  · rename_i heq
    exact absurd (List.cons.inj heq).1 (hne 'f' (by decide))
  · rename_i heq
    exact absurd (List.cons.inj heq).1 (hne '"' (by decide))
  · rename_i heq
    obtain ⟨rfl, rfl⟩ := List.cons.inj heq
    rw [if_pos h]
  · rename_i heq
    cases heq

theorem value_number (depth : Nat) (n : Number) {rest : List Char}
    (hr : Number.Literal.Stops rest) :
    (value depth (n.chars ++ rest)).toOption = (n.reread.map Value.num).map (·, rest) := by
  have hn := number_chars n hr
  obtain ⟨c, cs, h, hc⟩ := n.chars_head
  rw [h, List.cons_append] at hn ⊢
  rw [value_eq_scalar depth (begins_of_number hc), scalar_number hc, toOption_bind, hn]
  cases n.reread <;> rfl

theorem value_string (depth : Nat) (s : String) (rest : List Char) :
    value depth (quoted s ++ rest) = .ok (.str s, rest) := by
  obtain ⟨cs, h, hs⟩ := string_quoted s rest
  rw [h, value_eq_scalar depth (by constructor <;> decide)]
  unfold scalar
  simp [hs, bind, Except.bind, pure, Except.pure]

/-! ## Arrays and objects -/

/-- A step that reads the first item, and then the loop over the later ones. -/
theorem items_chars {item : Step Value} (v : Value) (vs : List Value) (rest : List Char) :
    (items item (v.chars ++ (itemChars vs ++ rest))).toOption =
      (item (v.chars ++ (itemChars vs ++ rest))).toOption.bind fun p =>
        (laterItems item (p.2.length + 1) p.2).toOption.map fun q => (p.1 :: q.1, q.2) := by
  obtain ⟨c, cs, h, hs, hc⟩ := chars_head v
  unfold items
  rw [h, List.cons_append, skipSpace_cons hs]
  split
  · rename_i heq
    exact absurd (List.cons.inj heq).1 hc
  · rw [toOption_bind]
    congr 1
    funext p
    rw [toOption_bind]
    cases (laterItems item (p.2.length + 1) p.2) <;> rfl

theorem laterItems_comma {item : Step Value} (n : Nat) (v : Value) (rest : List Char) :
    (laterItems item (n + 1) (',' :: (v.chars ++ rest))).toOption =
      (item (v.chars ++ rest)).toOption.bind fun p =>
        (laterItems item n p.2).toOption.map fun q => (p.1 :: q.1, q.2) := by
  obtain ⟨c, cs, h, hs, hc⟩ := chars_head v
  rw [laterItems, skipSpace_cons (by decide), h, List.cons_append]
  simp only []
  rw [skipSpace_cons hs]
  split
  · rename_i heq
    exact absurd (List.cons.inj heq).1 hc
  · rw [toOption_bind]
    congr 1
    funext p
    rw [toOption_bind]
    cases (laterItems item n p.2) <;> rfl

theorem member_chars (item : Step Value) (k : String) (v : Value) (rest : List Char) :
    (member string item (quoted k ++ ':' :: (v.chars ++ rest))).toOption =
      (item (v.chars ++ rest)).toOption.map fun p => ((k, p.1), p.2) := by
  obtain ⟨cs, h, hk⟩ := string_quoted k (':' :: (v.chars ++ rest))
  rw [h, member, toOption_bind, hk, toOption_ok, Option.bind_some]
  simp only []
  rw [skipSpace_cons (by decide)]
  simp only []
  rw [toOption_bind]
  cases item (v.chars ++ rest) <;> rfl

theorem skipSpace_quoted (k : String) (rest : List Char) :
    skipSpace (quoted k ++ rest) = quoted k ++ rest :=
  skipSpace_cons (by decide) _

theorem members_chars {item : Step Value} (k : String) (v : Value) (rest : List Char) :
    (members string item (quoted k ++ ':' :: (v.chars ++ rest))).toOption =
      (item (v.chars ++ rest)).toOption.bind fun p =>
        (laterMembers string item (p.2.length + 1) p.2).toOption.map fun q =>
          ((k, p.1) :: q.1, q.2) := by
  have hm := member_chars item k v rest
  obtain ⟨cs, h, -⟩ := string_quoted k (':' :: (v.chars ++ rest))
  rw [h] at hm
  unfold members
  rw [skipSpace_quoted, h]
  split
  · rename_i heq
    exact absurd (List.cons.inj heq).1 (by decide)
  · rw [toOption_bind, hm]
    cases item (v.chars ++ rest) with
    | error e => rfl
    | ok p =>
      simp only [toOption_ok, Option.map_some, Option.bind_some]
      rw [toOption_bind]
      cases (laterMembers string item (p.2.length + 1) p.2) <;> rfl

theorem laterMembers_comma {item : Step Value} (n : Nat) (k : String) (v : Value)
    (rest : List Char) :
    (laterMembers string item (n + 1) (',' :: (quoted k ++ ':' :: (v.chars ++ rest)))).toOption =
      (item (v.chars ++ rest)).toOption.bind fun p =>
        (laterMembers string item n p.2).toOption.map fun q => ((k, p.1) :: q.1, q.2) := by
  have hm := member_chars item k v rest
  rw [laterMembers, skipSpace_cons (by decide)]
  simp only []
  rw [skipSpace_quoted, toOption_bind, hm]
  cases item (v.chars ++ rest) with
  | error e => rfl
  | ok p =>
    simp only [toOption_ok, Option.map_some, Option.bind_some]
    rw [toOption_bind]
    cases (laterMembers string item n p.2) <;> rfl

/-- Two things are read one after the other if neither nests too deep. -/
theorem bind_map_if {α β γ : Type} {p q : Prop} [Decidable p] [Decidable q] {x : Option α}
    {y : Option β} {f : α → β → γ} {rest later : List Char}
    {g : α × List Char → Option (Taken β)}
    (hg : ∀ a, g (a, later) = if q then y.map (·, rest) else none) :
    ((if p then x.map (·, later) else none).bind fun a => (g a).map fun b => (f a.1 b.1, b.2)) =
      if p ∧ q then (x.bind fun a => y.map (f a)).map (·, rest) else none := by
  by_cases hp : p
  · cases x with
    | none => simp [hp]
    | some a =>
      by_cases hq : q
      · cases y <;> simp [hp, hq, hg]
      · simp [hp, hq, hg]
  · simp [hp]

/-! ## Values -/

mutual

/-- **The reader inverts the printer**: a reader that allows `depth` nested arrays and objects takes
the text of a value that nests at most so deep, and leaves what follows. -/
theorem value_chars : ∀ (v : Value) (depth : Nat) {rest : List Char}, Number.Literal.Stops rest →
    (value depth (v.chars ++ rest)).toOption =
      if v.depth ≤ depth then v.reread.map (·, rest) else none
  | .null, depth, rest, _ => by
    rw [Value.chars, List.cons_append, value_eq_scalar depth (by constructor <;> decide)]
    rfl
  | .bool true, depth, rest, _ => by
    rw [Value.chars, List.cons_append, value_eq_scalar depth (by constructor <;> decide)]
    rfl
  | .bool false, depth, rest, _ => by
    rw [Value.chars, List.cons_append, value_eq_scalar depth (by constructor <;> decide)]
    rfl
  | .num n, depth, rest, hr => by
    rw [Value.chars, value_number depth n hr]
    rfl
  | .str s, depth, rest, _ => by
    rw [Value.chars, value_string]
    rfl
  -- without depth left, the reader refuses any bracket
  | .arr [], 0, rest, _ => rfl
  | .arr (_ :: _), 0, rest, _ => rfl
  | .obj [], 0, rest, _ => rfl
  | .obj ((_, _) :: _), 0, rest, _ => rfl
  | .arr [], depth + 1, rest, _ => rfl
  | .obj [], depth + 1, rest, _ => rfl
  | .arr (v :: vs), depth + 1, rest, _ => by
    have hv := value_chars v depth (stops_itemChars vs rest)
    have hvs := laterItems_chars vs depth ((itemChars vs ++ rest).length + 1) rest (by
      have := length_le_itemChars vs
      rw [List.length_append]
      omega)
    have hd : (arr (v :: vs)).depth ≤ depth + 1 ↔ v.depth ≤ depth ∧ depthOfItems vs ≤ depth := by
      rw [Value.depth, depthOfItems]
      omega
    rw [Value.chars, List.cons_append, List.append_assoc, value, skipSpace_cons (by decide)]
    simp only []
    rw [toOption_bind, items_chars, hv, bind_map_if fun _ => hvs, reread, rereadItems]
    simp only [hd]
    split
    · cases v.reread <;> cases rereadItems vs <;> rfl
    · rfl
  | .obj ((k, v) :: ms), depth + 1, rest, _ => by
    have hv := value_chars v depth (stops_memberChars ms rest)
    have hms := laterMembers_chars ms depth ((memberChars ms ++ rest).length + 1) rest (by
      have := length_le_memberChars ms
      rw [List.length_append]
      omega)
    have hd : (obj ((k, v) :: ms)).depth ≤ depth + 1 ↔
        v.depth ≤ depth ∧ depthOfMembers ms ≤ depth := by
      rw [Value.depth, depthOfMembers]
      omega
    have hc : (obj ((k, v) :: ms)).chars ++ rest =
        '\x7b' :: (quoted k ++ ':' :: (v.chars ++ (memberChars ms ++ rest))) := by
      simp [Value.chars]
    rw [hc, value, skipSpace_cons (by decide)]
    simp only []
    rw [toOption_bind, members_chars, hv,
      bind_map_if (f := fun w ws => (k, w) :: ws) fun _ => hms, reread, rereadMembers]
    simp only [hd]
    split
    · cases v.reread <;> cases rereadMembers ms <;> rfl
    · rfl

theorem laterItems_chars : ∀ (vs : List Value) (depth n : Nat) (rest : List Char), vs.length < n →
    (laterItems (value depth) n (itemChars vs ++ rest)).toOption =
      if depthOfItems vs ≤ depth then (rereadItems vs).map (·, rest) else none
  | _, _, 0, _, h => absurd h (Nat.not_lt_zero _)
  | [], depth, n + 1, rest, _ => rfl
  | v :: vs, depth, n + 1, rest, h => by
    have hv := value_chars v depth (stops_itemChars vs rest)
    have hvs := laterItems_chars vs depth n rest (Nat.lt_of_succ_lt_succ h)
    rw [itemChars, List.cons_append, List.append_assoc, laterItems_comma, hv,
      bind_map_if fun _ => hvs, depthOfItems, rereadItems]
    simp only [Nat.max_le]

theorem laterMembers_chars : ∀ (ms : List (String × Value)) (depth n : Nat) (rest : List Char),
    ms.length < n →
    (laterMembers string (value depth) n (memberChars ms ++ rest)).toOption =
      if depthOfMembers ms ≤ depth then (rereadMembers ms).map (·, rest) else none
  | _, _, 0, _, h => absurd h (Nat.not_lt_zero _)
  | [], depth, n + 1, rest, _ => rfl
  | (k, v) :: ms, depth, n + 1, rest, h => by
    have hv := value_chars v depth (stops_memberChars ms rest)
    have hms := laterMembers_chars ms depth n rest (Nat.lt_of_succ_lt_succ h)
    have hc : memberChars ((k, v) :: ms) ++ rest =
        ',' :: (quoted k ++ ':' :: (v.chars ++ (memberChars ms ++ rest))) := by
      simp [memberChars]
    rw [hc, laterMembers_comma, hv,
      bind_map_if (f := fun w ws => (k, w) :: ws) fun _ => hms, depthOfMembers, rereadMembers]
    simp only [Nat.max_le]

end

end Json

/-! ## Whole texts -/

namespace Value

theorem maxDepth_eq : Json.maxDepth = 127 := by
  unfold Json.maxDepth
  rfl

/-- A whole text is JSON if a value and nothing else is read from it. -/
theorem ofText?_ofList {cs : List Char} {x : Option Value}
    (h : (Json.value Json.maxDepth cs).toOption = x.map (·, [])) : ofText? (String.ofList cs) = x := by
  rw [ofText?, read, readChars, String.toList_ofList, Json.whole]
  cases x with
  | none =>
    cases hc : Json.value Json.maxDepth cs with
    | error e => rfl
    | ok p =>
      rw [hc] at h
      cases h
  | some v =>
    rw [eq_ok_of_toOption h]
    rfl

/-- The text of a value that nests at most 127 deep is read as what the value is reread as, and a
text that nests deeper is refused. -/
theorem ofText?_text (v : Value) : ofText? v.text = if v.depth ≤ 127 then v.reread else none := by
  have hv := Json.value_chars v Json.maxDepth Number.Literal.stops_nil
  rw [List.append_nil, maxDepth_eq] at hv
  apply ofText?_ofList
  rw [maxDepth_eq, hv]
  split <;> rfl

/-! ## Legible values -/

theorem rereadItems_of_legible {items : List Value} (h : ∀ v ∈ items, v.Legible) :
    rereadItems items = some (canonicalItems items) := by
  induction items with
  | nil => rfl
  | cons v rest ih =>
    have hv : v.reread = some v.canonical := h v List.mem_cons_self
    rw [rereadItems, hv, ih fun w hw => h w (List.mem_cons_of_mem _ hw)]
    rfl

theorem rereadMembers_of_legible {members : List (String × Value)}
    (h : ∀ m ∈ members, m.2.Legible) : rereadMembers members = some (canonicalMembers members) := by
  induction members with
  | nil => rfl
  | cons m rest ih =>
    obtain ⟨k, v⟩ := m
    have hv : v.reread = some v.canonical := h (k, v) List.mem_cons_self
    rw [rereadMembers, hv, ih fun n hn => h n (List.mem_cons_of_mem _ hn)]
    rfl

theorem legible_arr {items : List Value} (h : ∀ v ∈ items, v.Legible) : (arr items).Legible := by
  unfold Legible
  rw [reread, rereadItems_of_legible h]
  rfl

theorem legible_obj {members : List (String × Value)} (h : ∀ m ∈ members, m.2.Legible) :
    (obj members).Legible := by
  unfold Legible
  rw [reread, rereadMembers_of_legible h]
  rfl

theorem legible_num {n : Number} (h : n.reread = some n) : (num n).Legible := by
  unfold Legible
  rw [reread, h]
  rfl

mutual

/-- Every number, at every depth, is reread as itself. -/
def Exact : Value → Prop
  | .num n => n.reread = some n
  | .arr items => ExactItems items
  | .obj members => ExactMembers members
  | _ => True

def ExactItems : List Value → Prop
  | [] => True
  | v :: rest => Exact v ∧ ExactItems rest

def ExactMembers : List (String × Value) → Prop
  | [] => True
  | (_, v) :: rest => Exact v ∧ ExactMembers rest

end

theorem exactItems_iff {items : List Value} : ExactItems items ↔ ∀ v ∈ items, v.Exact := by
  induction items with
  | nil => simp [ExactItems]
  | cons v rest ih => rw [ExactItems, ih, List.forall_mem_cons]

theorem exactMembers_iff {members : List (String × Value)} :
    ExactMembers members ↔ ∀ m ∈ members, m.2.Exact := by
  induction members with
  | nil => simp [ExactMembers]
  | cons m rest ih => rw [ExactMembers, ih, List.forall_mem_cons]

mutual

/-- A value whose numbers are reread as themselves is legible. -/
theorem legible_of_exact : ∀ {v : Value}, v.Exact → v.Legible
  | .null, _ => rfl
  | .bool _, _ => rfl
  | .str _, _ => rfl
  | .num _, h => legible_num h
  | .arr _, h => legible_arr (legible_of_exactItems h)
  | .obj _, h => legible_obj (legible_of_exactMembers h)

theorem legible_of_exactItems : ∀ {items : List Value}, ExactItems items →
    ∀ v ∈ items, v.Legible
  | [], _, _, hv => absurd hv List.not_mem_nil
  | v :: _, h, w, hw => by
    rw [ExactItems] at h
    rcases List.mem_cons.mp hw with hw | hw
    · rw [hw]
      exact legible_of_exact h.1
    · exact legible_of_exactItems h.2 w hw

theorem legible_of_exactMembers : ∀ {members : List (String × Value)}, ExactMembers members →
    ∀ m ∈ members, m.2.Legible
  | [], _, _, hm => absurd hm List.not_mem_nil
  | (k, v) :: _, h, m, hm => by
    rw [ExactMembers] at h
    rcases List.mem_cons.mp hm with hm | hm
    · rw [hm]
      exact legible_of_exact h.1
    · exact legible_of_exactMembers h.2 m hm

end

mutual

/-- Integers of 64 bits are reread as themselves. -/
theorem exact_of_integral : ∀ {v : Value}, v.Integral → v.Exact
  | .null, _ => trivial
  | .bool _, _ => trivial
  | .str _, _ => trivial
  | .num (.int _), h => Number.reread_int h
  | .num (.real _), h => h.elim
  | .arr _, h => exact_of_integralItems h
  | .obj _, h => exact_of_integralMembers h

theorem exact_of_integralItems : ∀ {items : List Value}, IntegralItems items → ExactItems items
  | [], _ => trivial
  | _ :: _, h => ⟨exact_of_integral h.1, exact_of_integralItems h.2⟩

theorem exact_of_integralMembers : ∀ {members : List (String × Value)}, IntegralMembers members →
    ExactMembers members
  | [], _ => trivial
  | (_, _) :: _, h => ⟨exact_of_integral h.1, exact_of_integralMembers h.2⟩

end

end Value

end ScriptLink
