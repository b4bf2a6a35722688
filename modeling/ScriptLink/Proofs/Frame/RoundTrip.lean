import ScriptLink.Frame.Decode
import ScriptLink.Proofs.Json.RoundTrip

/-!
# ScriptLink.Proofs.Frame.RoundTrip — reading the line of a frame

* `Frame.settled` leaves out the optional values of a frame that are `null`: on the line they cannot be
  told from absent ones. `Frame.canonical` puts the values of a frame into canonical form.
* `decode_encode_of_legible`: the line of a frame is decoded as the frame, settled and canonical, if it
  nests at most 127 deep and its numbers are read as they are written.
* `kind_decode_encode`: whatever is in a frame, its line is never taken for a frame of another kind.
* `of_decode`: a frame that means something was read from a value with the members of its kind.
* `decode_encode_settled` is the round trip for frames whose numbers are integers of 64 bits.
-/

namespace ScriptLink

/-! ## Optional values -/

namespace Value

/-- A missing value is written as `null` and so cannot be told from it. -/
theorem present?_getD (v : Option Value) : (v.getD .null).present? = v.bind present? := by
  cases v <;> rfl

theorem bind_present?_canonical (v : Option Value) :
    (v.map canonical).bind present? = (v.bind present?).map canonical := by
  cases v with
  | none => rfl
  | some w => exact present?_canonical w

theorem asStrings?_strings (texts : List String) : (strings texts).asStrings? = some texts := by
  unfold asStrings? strings asArray?
  rw [Option.bind_some]
  induction texts with
  | nil => rfl
  | cons t rest ih =>
    rw [List.map_cons, List.mapM_cons, ih]
    rfl

theorem asWord?_ofNat (n : UInt64) : (ofNat n.toNat).asWord? = some n := by
  have h : n.toNat < 18446744073709551616 := n.toNat_lt
  have hi : 0 ≤ (n.toNat : Int) ∧ (n.toNat : Int) < 0x10000000000000000 := by omega
  unfold ofNat asWord?
  simp only []
  rw [if_pos hi, Int.toNat_natCast, UInt64.ofNat_toNat]

theorem canonical_ofNat (n : Nat) : (ofNat n).canonical = .ofNat n := by
  unfold ofNat
  rw [canonical_num]

end Value

namespace Frame

/-! ## Values in frames -/

/-- The frame with its values changed: those that are always there and those that are optional. -/
def mapValues (free : Value → Value) (optional : Option Value → Option Value) : Frame → Frame
  | .ready c => .ready c
  | .ping seq => .ping (optional seq)
  | .pong seq time => .pong (free seq) time
  | .message id payload => .message (optional id) (free payload)
  | .externalMessage id payload => .externalMessage (optional id) (free payload)
  | .messageResult id result => .messageResult (optional id) (free result)
  | .error id why => .error (optional id) why
  | .load id specifier => .load (optional id) (optional specifier)
  | .loaded id specifier modules => .loaded (optional id) specifier modules
  | .loadError id specifier why => .loadError (optional id) specifier why
  | .factors id values value => .factors (optional id) (optional values) (optional value)
  | .factorsUpdated id values => .factorsUpdated (optional id) values
  | .arguments id args => .arguments (optional id) (optional args)
  | .argumentsUpdated id args => .argumentsUpdated (optional id) args
  | .hostCall id payload => .hostCall (free id) (free payload)
  | .hostResult id result => .hostResult (free id) (free result)
  | .hostError id why => .hostError (free id) (optional why)
  | .shutdown reason => .shutdown (optional reason)
  | .shutdownAck reason => .shutdownAck reason
  | .unknown received => .unknown (free received)
  | .text raw => .text raw

/-- The frame with its values in canonical form. -/
def canonical (f : Frame) : Frame := f.mapValues Value.canonical (Option.map Value.canonical)

/-- The frame with every optional value that is `null` left out. -/
def settled (f : Frame) : Frame := f.mapValues (fun v => v) (Option.bind · Value.present?)

/-- How deep the object of a frame nests. -/
def depth (f : Frame) : Nat := (Value.obj f.members).depth

/-! ## Members by key -/

theorem lookup_omitted (key name : String) (v : Option Value) :
    (omitted name v).lookup key = if key = name then v else none := by
  unfold omitted
  by_cases h : key = name
  · cases v <;> simp [h]
  · have hb : (key == name) = false := beq_eq_false_iff_ne.mpr h
    cases v <;> simp [h, hb, List.lookup_cons]

/-- No two members of a frame have the same key. -/
theorem keys_nodup (f : Frame) : (f.members.map Prod.fst).Nodup := by
  cases f with
  | ping seq => cases seq <;> simp [members, body, omitted]
  | loadError id specifier why => cases specifier <;> simp [members, body, omitted, nullable]
  | factors id values value =>
    cases values <;> cases value <;> simp [members, body, omitted, nullable]
  | hostError id why => cases why <;> simp [members, body, omitted]
  | shutdown reason => cases reason <;> simp [members, body, omitted]
  | _ => simp [members, body, nullable]

theorem lookup_reverse_of_nodup {ms : List (String × Value)} (h : (ms.map Prod.fst).Nodup)
    (key : String) : ms.reverse.lookup key = ms.lookup key := by
  induction ms with
  | nil => rfl
  | cons m rest ih =>
    obtain ⟨k, v⟩ := m
    rw [List.map_cons, List.nodup_cons] at h
    rw [List.reverse_cons, List.lookup_append, ih h.2]
    by_cases hk : key = k
    · subst hk
      have hn : rest.lookup key = none := by
        rw [List.lookup_eq_none_iff]
        intro m hm
        have hne : key ≠ m.1 := fun e => h.1 (List.mem_map.mpr ⟨m, hm, e.symm⟩)
        exact bne_iff_ne.mpr hne
      rw [hn]
      simp
    · have hb : (key == k) = false := beq_eq_false_iff_ne.mpr hk
      rw [List.lookup_cons, List.lookup_cons, hb, List.lookup_nil, Option.or_none]

theorem lookup_canonicalMembers (ms : List (String × Value)) (key : String) :
    (Value.canonicalMembers ms).lookup key = (ms.lookup key).map Value.canonical := by
  induction ms with
  | nil => rfl
  | cons m rest ih =>
    obtain ⟨k, v⟩ := m
    rw [Value.canonicalMembers, List.lookup_cons, List.lookup_cons, ih]
    split <;> rfl

/-- The members of the object that the line of a frame holds. -/
theorem get?_canonicalMembers (f : Frame) (key : String) :
    (Value.object (Value.canonicalMembers f.members)).get? key =
      (f.members.lookup key).map Value.canonical := by
  have hn : ((Value.canonicalMembers f.members).map Prod.fst).Nodup := by
    rw [Value.canonicalMembers_eq_map, List.map_map]
    exact f.keys_nodup
  rw [Value.get?_object, lookup_reverse_of_nodup hn, lookup_canonicalMembers]

/-! ## Reading the members back -/

/-- A value with the members of a frame, in canonical form, is read as that frame. -/
theorem ofMembers?_members (f : Frame) (h : f.kind ≠ .text) {v : Value}
    (hv : ∀ key, v.get? key = (f.members.lookup key).map Value.canonical) :
    ofMembers? f.kind v = some f.canonical.settled := by
  cases f with
  | text raw => exact absurd rfl h
  | loadError id specifier why =>
    cases specifier <;>
    simp [ofMembers?, kind, free?, typed, typedOr, optionalText?, hv, members, body, nullable,
      lookup_omitted, List.lookup_append, List.lookup_cons, canonical, settled, mapValues,
      Value.asString?, Value.present?_canonical, Value.present?_getD, Value.bind_present?_canonical]
  | pong seq time =>
    have hs : (pong seq time).members.lookup "seq" = some seq := by
      simp [members, body, List.lookup_cons]
    have ha : (pong seq time).members.lookup "at" = some (.ofNat time.toNat) := by
      simp [members, body, List.lookup_cons]
    have ht : typed Value.asWord? "at" v = some time := by
      unfold typed
      rw [hv, ha, Option.map_some, Value.canonical_ofNat, Option.bind_some, Value.asWord?_ofNat]
    unfold kind ofMembers?
    simp only []
    rw [hv, hs, ht]
    rfl
  | _ =>
    simp [ofMembers?, kind, free?, freeOrNull, typed, typedOr, hv, members, body, nullable,
      lookup_omitted, List.lookup_append, List.lookup_cons, canonical, settled, mapValues,
      Value.asStrings?_strings, Value.asString?, Value.asBool?, Value.present?_canonical,
      Value.present?_getD, Value.bind_present?_canonical]

/-- The line of a frame names its kind. -/
theorem receivedType_canonicalMembers (f : Frame) :
    receivedType (Value.object (Value.canonicalMembers f.members)) = .str f.kind.name := by
  unfold receivedType freeOrNull
  rw [get?_canonicalMembers, members, List.lookup_cons_self]
  rfl

theorem ofValue_canonicalMembers (f : Frame) (h : f.kind ≠ .text) :
    ofValue (Value.object (Value.canonicalMembers f.members)) = f.canonical.settled := by
  have hm := ofMembers?_members f h f.get?_canonicalMembers
  unfold ofValue
  rw [receivedType_canonicalMembers]
  simp only []
  rw [Kind.ofName?_name, Option.bind_some, hm]
  rfl

/-! ## Lines -/

theorem memberChars_ends (ms : List (String × Value)) :
    ∃ cs, Value.memberChars ms = cs ++ ['\x7d'] := by
  induction ms with
  | nil => exact ⟨[], rfl⟩
  | cons m rest ih =>
    obtain ⟨k, v⟩ := m
    obtain ⟨cs, h⟩ := ih
    refine ⟨',' :: (Value.quoted k ++ ':' :: (v.chars ++ cs)), ?_⟩
    rw [Value.memberChars, h]
    simp

/-- The text of an object has no line end after it. -/
theorem withoutEnd_obj (m : String × Value) (ms : List (String × Value)) :
    withoutEnd (Value.obj (m :: ms)).text = (Value.obj (m :: ms)).text := by
  obtain ⟨k, v⟩ := m
  obtain ⟨cs, h⟩ := memberChars_ends ms
  obtain ⟨ds, hd⟩ : ∃ ds, (Value.obj ((k, v) :: ms)).chars = ds ++ ['\x7d'] := by
    rw [Value.chars, h]
    refine ⟨'\x7b' :: (Value.quoted k ++ ':' :: (v.chars ++ cs)), ?_⟩
    simp
  unfold withoutEnd Value.text
  rw [String.toList_ofList, hd, Text.stripEndBy, List.reverse_append, List.reverse_singleton,
    List.singleton_append, List.dropWhile_cons_of_neg (by decide), List.reverse_cons,
    List.reverse_reverse]

/-- What the text of an object is decoded as: it is JSON unless it nests too deep or a number in it is
not written as one. -/
theorem decode_obj (m : String × Value) (ms : List (String × Value)) :
    decode (Value.obj (m :: ms)).text =
      if (Value.obj (m :: ms)).depth ≤ 127 then
        match Value.rereadMembers (m :: ms) with
        | some later => ofValue (.object later)
        | none => .text (Value.obj (m :: ms)).text
      else .text (Value.obj (m :: ms)).text := by
  obtain ⟨k, v⟩ := m
  unfold decode
  rw [withoutEnd_obj, Value.ofText?_text]
  by_cases hd : (Value.obj ((k, v) :: ms)).depth ≤ 127
  · rw [if_pos hd, if_pos hd, Value.reread]
    cases Value.rereadMembers _ <;> rfl
  · rw [if_neg hd, if_neg hd]

theorem decode_encode (f : Frame) : decode f.encode =
    if f.depth ≤ 127 then
      match Value.rereadMembers f.members with
      | some ms => ofValue (.object ms)
      | none => .text f.encode
    else .text f.encode :=
  decode_obj _ f.body

/-- The line of a frame is decoded as the frame if it nests at most 127 deep and its numbers are read
as they are written. -/
theorem decode_encode_of_legible {f : Frame} (h : f.kind ≠ .text) (hd : f.depth ≤ 127)
    (hl : ∀ m ∈ f.members, m.2.Legible) : decode f.encode = f.canonical.settled := by
  rw [decode_encode, if_pos hd, Value.rereadMembers_of_legible hl]
  exact ofValue_canonicalMembers f h

/-! ## Kinds of lines -/

theorem kind_of_ofMembers? {k : Kind} {v : Value} {f : Frame} (h : ofMembers? k v = some f) :
    f.kind = k := by
  cases k <;> simp only [ofMembers?, bind, pure, Option.bind_eq_some_iff, Option.some.injEq,
    reduceCtorEq] at h
  all_goals grind [kind]

theorem Kind.name_of_ofName? {name : String} {k : Kind} (h : Kind.ofName? name = some k) :
    k.name = name := by
  simpa using List.find?_some h

/-- A value becomes the frame of the kind that it names, or an unknown one if it has not the members. -/
theorem ofValue_of_name {v : Value} {k : Kind} (h : receivedType v = .str k.name) :
    ofValue v = (ofMembers? k v).getD (.unknown (.str k.name)) := by
  unfold ofValue
  rw [h]
  simp only []
  rw [Kind.ofName?_name, Option.bind_some]

/-- A value that names no kind, or has not the members of its kind, becomes unknown. -/
theorem ofValue_eq_unknown {v : Value}
    (h : ∀ k, receivedType v = .str k.name → ofMembers? k v = none) :
    ofValue v = .unknown (receivedType v) := by
  unfold ofValue
  split
  · rename_i name hname
    have hnone : ((Kind.ofName? name).bind fun k => ofMembers? k v) = none := by
      rw [Option.bind_eq_none_iff]
      intro k hk
      exact h k (by rw [hname, Kind.name_of_ofName? hk])
    rw [hnone, hname]
    rfl
  · rfl

/-- A value becomes unknown, or is read as the members of a kind. -/
theorem ofValue_cases (v : Value) : ofValue v = .unknown (receivedType v) ∨
    ∃ k, ofMembers? k v = some (ofValue v) := by
  by_cases h : ∃ k, receivedType v = .str k.name ∧ ∃ f, ofMembers? k v = some f
  · obtain ⟨k, hname, f, hf⟩ := h
    refine .inr ⟨k, ?_⟩
    rw [ofValue_of_name hname, hf]
    rfl
  · refine .inl (ofValue_eq_unknown fun k hname => ?_)
    exact Option.eq_none_iff_forall_ne_some.mpr fun f hf => h ⟨k, hname, f, hf⟩

/-- A value that is understood names the kind of its frame and has the members of that kind. -/
theorem of_ofValue {v : Value} {f : Frame} (h : ofValue v = f) (hk : f.kind ≠ .unknown) :
    receivedType v = .str f.kind.name ∧ ofMembers? f.kind v = some f := by
  unfold ofValue at h
  split at h
  · rename_i name hname
    cases hf : (Kind.ofName? name).bind fun k => ofMembers? k v with
    | none =>
      rw [hf] at h
      exact absurd (congrArg kind h.symm) hk
    | some g =>
      rw [hf] at h
      obtain rfl : g = f := h
      obtain ⟨k, hn, hg⟩ := Option.bind_eq_some_iff.mp hf
      rw [kind_of_ofMembers? hg, hname, Kind.name_of_ofName? hn]
      exact ⟨rfl, hg⟩
  · exact absurd (congrArg kind h.symm) hk

/-- A frame that means something was read from a value with its members. -/
theorem of_decode {line : String} {f : Frame} (h : decode line = f)
    (hk : f.kind ≠ .text ∧ f.kind ≠ .unknown) :
    ∃ v, Value.ofText? (withoutEnd line) = some v ∧ ofMembers? f.kind v = some f := by
  unfold decode at h
  split at h
  · exact absurd (congrArg kind h.symm) hk.1
  · rename_i v hv
    exact ⟨v, hv, (of_ofValue h hk.2).2⟩

theorem kind_ofValue {v : Value} {k : Kind} (h : receivedType v = .str k.name) :
    (ofValue v).kind = k ∨ (ofValue v).kind = .unknown := by
  rw [ofValue_of_name h]
  cases hf : ofMembers? k v with
  | none => exact Or.inr rfl
  | some f => exact Or.inl (kind_of_ofMembers? hf)

theorem keys_rereadMembers {ms later : List (String × Value)}
    (h : Value.rereadMembers ms = some later) : later.map Prod.fst = ms.map Prod.fst := by
  induction ms generalizing later with
  | nil =>
    cases h
    rfl
  | cons m rest ih =>
    obtain ⟨k, v⟩ := m
    rw [Value.rereadMembers] at h
    obtain ⟨w, -, h⟩ := Option.bind_eq_some_iff.mp h
    obtain ⟨ws, hws, rfl⟩ := Option.map_eq_some_iff.mp h
    rw [List.map_cons, List.map_cons, ih hws]

/-- Whatever is in a frame, its line is not taken for a frame of another kind. -/
theorem kind_decode_encode (f : Frame) : (decode f.encode).kind = f.kind ∨
    (decode f.encode).kind = .unknown ∨ (decode f.encode).kind = .text := by
  rw [decode_encode]
  split
  · cases h : Value.rereadMembers f.members with
    | none => exact Or.inr (Or.inr rfl)
    | some ms =>
      have hn : (ms.map Prod.fst).Nodup := keys_rereadMembers h ▸ f.keys_nodup
      have ht : receivedType (.object ms) = .str f.kind.name := by
        rw [members, Value.rereadMembers, Value.reread_str, Option.bind_some] at h
        obtain ⟨ws, -, rfl⟩ := Option.map_eq_some_iff.mp h
        unfold receivedType freeOrNull
        rw [Value.get?_object, lookup_reverse_of_nodup hn, List.lookup_cons_self]
        rfl
      rcases kind_ofValue ht with hk | hk
      · exact Or.inl hk
      · exact Or.inr (Or.inl hk)
  · exact Or.inr (Or.inr rfl)

/-! ## Integers of 64 bits -/

theorem legible_members {f : Frame} (h : Value.IntegralMembers f.body) :
    ∀ m ∈ f.members, m.2.Legible := by
  apply Value.legible_of_exactMembers
  rw [members, Value.ExactMembers]
  exact ⟨trivial, Value.exact_of_integralMembers h⟩

theorem sortedMembers_append {ms ns : List (String × Value)} :
    Value.SortedMembers (ms ++ ns) ↔ Value.SortedMembers ms ∧ Value.SortedMembers ns := by
  induction ms with
  | nil => simp [Value.SortedMembers]
  | cons m rest ih =>
    obtain ⟨k, v⟩ := m
    rw [List.cons_append, Value.SortedMembers, Value.SortedMembers, ih, and_assoc]

theorem map_canonical_of_getD {v : Option Value} (h : (v.getD .null).Sorted) :
    v.map Value.canonical = v := by
  cases v with
  | none => rfl
  | some w => exact congrArg some (Value.canonical_of_sorted h)

theorem sortedMembers_omitted {name : String} {v : Option Value} :
    Value.SortedMembers (omitted name v) ↔ (v.getD .null).Sorted := by
  cases v with
  | none => simp [omitted, Value.SortedMembers, Value.Sorted]
  | some w => simp [omitted, Value.SortedMembers]

/-- A frame whose objects have their keys in order is in canonical form. -/
theorem canonical_of_sorted {f : Frame} (h : Value.SortedMembers f.body) : f.canonical = f := by
  cases f <;>
  simp only [body, nullable, Value.SortedMembers, sortedMembers_append, sortedMembers_omitted] at h <;>
  simp [canonical, mapValues, Value.canonical_of_sorted, map_canonical_of_getD, h]

/-- **Round trip of frames**: the line of a frame of any kind but `text`, with values of any shape in
it whose numbers are integers of 64 bits, is decoded as the frame with the optional values that are
`null` left out, or as the text of the whole line if it nests deeper than 127. -/
theorem decode_encode_settled (f : Frame) (hk : f.kind ≠ .text)
    (hi : Value.IntegralMembers f.body) :
    (f.depth ≤ 127 → decode f.encode = f.canonical.settled ∧
      (Value.SortedMembers f.body → decode f.encode = f.settled)) ∧
    (127 < f.depth → decode f.encode = .text f.encode) := by
  refine ⟨fun hd => ?_, fun hd => ?_⟩
  · have h := decode_encode_of_legible hk hd (legible_members hi)
    refine ⟨h, fun hs => ?_⟩
    rw [h, canonical_of_sorted hs]
  · rw [decode_encode, if_neg (by omega)]

/-- An id that is `null` and a missing value are both left out, and the largest word stays. -/
theorem decode_encode_settled_factors :
    decode (encode (.factors (some .null) (some (.arr [.str "x", .ofNat 18446744073709551615])) none)) =
      .factors none (some (.arr [.str "x", .ofNat 18446744073709551615])) none := by
  have h := decode_encode_settled
    (.factors (some .null) (some (.arr [.str "x", .ofNat 18446744073709551615])) none) (by decide)
    (by simp [body, nullable, omitted, Value.IntegralMembers, Value.Integral, Value.IntegralItems,
      Value.ofNat, Number.Fits])
  refine (h.1 (by decide)).2 ?_
  simp [body, nullable, omitted, Value.SortedMembers, Value.Sorted, Value.SortedItems, Value.ofNat]

end Frame

end ScriptLink
