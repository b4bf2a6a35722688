import ScriptLink.Proofs.Frame.RoundTrip

/-!
# ScriptLink.Proofs.Frame.Fields — the fields of each kind

* `Kind.fields` is a table: for each field its name, its type, and what stands for it where it is missing.
  A required field has nothing that stands for it.
* `exists_ofMembers?_iff`: a value is read as a frame of a kind if and only if it suits every field of it.
* `field_of_ofMembers?`: the fields of that frame have the values that the object gives for them, and it has
  nothing else (`body_ofValue`).
-/

namespace ScriptLink.Frame

/-! ## The table -/

/-- What a field may hold. -/
inductive FieldType where
  | free
  | text
  | textOrNull
  | flag
  | texts
  | word
  deriving DecidableEq, Repr

/-- The value is of the type. -/
def FieldType.Holds : FieldType → Value → Prop
  | .free, _ => True
  | .text, v => ∃ s, v = .str s
  | .textOrNull, v => v = .null ∨ ∃ s, v = .str s
  | .flag, v => ∃ b, v = .bool b
  | .texts, v => ∃ ts, v = .strings ts
  | .word, v => ∃ n < UInt64.size, v = .ofNat n

/-- A field of a kind. -/
structure Field where
  name : String
  type : FieldType
  /-- What stands for the field where it is missing; without that it is required. -/
  absent : Option Value

namespace Field

/-- A field that must be there. -/
def required (name : String) (type : FieldType) : Field := ⟨name, type, none⟩

/-- A field of any type that is `null` when absent. -/
def optional (name : String) : Field := ⟨name, .free, some .null⟩

/-- The field has its type, or it is missing and need not be there. -/
def Suits (p : Field) (v : Value) : Prop :=
  match v.get? p.name with
  | none => p.absent.isSome
  | some w => p.type.Holds w

/-- What an object gives for the field. -/
def value (p : Field) (v : Value) : Value := (v.get? p.name).getD (p.absent.getD .null)

end Field

/-- The fields of a kind beside its name. -/
def Kind.fields : Kind → List Field
  | .ready =>
    [⟨"targetSpecifier", .text, some (.str "")⟩,
      ⟨"hasExportedHandler", .flag, some (.bool false)⟩,
      ⟨"hasGlobalHandler", .flag, some (.bool false)⟩,
      ⟨"hasRustResultHandler", .flag, some (.bool false)⟩,
      ⟨"hasMfaUpdateHandler", .flag, some (.bool false)⟩,
      ⟨"modules", .texts, some (.arr [])⟩,
      ⟨"mfa", .texts, some (.arr [])⟩,
      ⟨"args", .texts, some (.arr [])⟩]
  | .ping => [.optional "seq"]
  | .pong => [.required "seq" .free, .required "at" .word]
  | .message | .externalMessage => [.optional "id", .optional "payload"]
  | .messageResult => [.optional "id", .required "result" .free]
  | .error => [.optional "id", .required "error" .text]
  | .load => [.optional "id", .optional "specifier"]
  | .loaded => [.optional "id", .required "specifier" .text, .required "modules" .texts]
  | .loadError => [.optional "id", ⟨"specifier", .textOrNull, some .null⟩, .required "error" .text]
  | .factors => [.optional "id", .optional "values", .optional "value"]
  | .factorsUpdated => [.optional "id", .required "mfa" .texts]
  | .arguments => [.optional "id", .optional "args"]
  | .argumentsUpdated => [.optional "id", .required "args" .texts]
  | .hostCall => [.required "id" .free, .required "payload" .free]
  | .hostResult => [.optional "id", .optional "result"]
  | .hostError => [.optional "id", .optional "error"]
  | .shutdown => [.optional "reason"]
  | .shutdownAck => [.required "reason" .text]
  | .unknown => [.optional "receivedType"]
  | .text => [.required "raw" .text]

/-- The value of a field of a frame; one that is left out is `null`. -/
def field (f : Frame) (name : String) : Value := (f.body.lookup name).getD .null

/-- An object of that kind: it names the kind, and suits every field of it. -/
def Kind.Names (k : Kind) (v : Value) : Prop :=
  (v.get? "type").getD .null = .str k.name ∧ ∀ p ∈ k.fields, p.Suits v

/-! ## Readers of members -/

/-- A reader that accepts just the values that are written for something. -/
def Accepts (read : Value → Option α) (written : α → Value) : Prop :=
  ∀ w a, read w = some a ↔ w = written a

theorem accepts_text : Accepts Value.asString? .str := by
  intro w s
  cases w <;> simp [Value.asString?]

theorem accepts_flag : Accepts Value.asBool? .bool := by
  intro w b
  cases w <;> simp [Value.asBool?]

theorem eq_map_of_mapM {items : List Value} {ts : List String}
    (h : items.mapM Value.asString? = some ts) : items = ts.map .str := by
  induction items generalizing ts with
  | nil =>
    cases h
    rfl
  | cons v rest ih =>
    rw [List.mapM_cons] at h
    obtain ⟨s, hs, h⟩ := Option.bind_eq_some_iff.mp h
    obtain ⟨more, hmore, h⟩ := Option.bind_eq_some_iff.mp h
    cases h
    rw [(accepts_text v s).mp hs, ih hmore, List.map_cons]

theorem accepts_texts : Accepts Value.asStrings? .strings := by
  intro w ts
  refine ⟨fun h => ?_, fun h => h ▸ Value.asStrings?_strings ts⟩
  obtain ⟨items, hitems, h⟩ := Option.bind_eq_some_iff.mp h
  cases w with
  | arr _ =>
    cases hitems
    exact congrArg Value.arr (eq_map_of_mapM h)
  | _ => cases hitems

theorem accepts_word : Accepts Value.asWord? fun n => .ofNat n.toNat := by
  intro w n
  refine ⟨fun h => ?_, fun h => h ▸ Value.asWord?_ofNat n⟩
  unfold Value.asWord? at h
  split at h
  · rename_i i
    split at h
    · rename_i hi
      cases h
      have hlt : i.toNat < 2 ^ 64 := by omega
      show Value.num (.int i) = .num (.int ((UInt64.ofNat i.toNat).toNat : Int))
      rw [UInt64.toNat_ofNat', Nat.mod_eq_of_lt hlt, Int.toNat_of_nonneg hi.1]
    · cases h
  · cases h

theorem accepts_textOrNull : Accepts optionalText? fun s => (s.map .str).getD .null := by
  intro w s
  cases w <;> cases s <;> simp [optionalText?, eq_comm]

section

variable {read : Value → Option α} {written : α → Value} (h : Accepts read written) {name : String}
  {v : Value} {a : α}
include h

theorem typed_eq_some_iff : typed read name v = some a ↔ v.get? name = some (written a) := by
  unfold typed
  rw [Option.bind_eq_some_iff]
  simp only [h _ _, exists_eq_right]

theorem typedOr_eq_some_iff {absent : α} :
    typedOr read absent name v = some a ↔ (v.get? name).getD (written absent) = written a := by
  unfold typedOr
  split
  · rename_i hnone
    rw [hnone, Option.getD_none, ← h, (h _ _).mpr rfl]
  · rename_i w hsome
    rw [hsome, Option.getD_some, h]

end

/-- A free member that is `null` counts as absent, and one that is absent is `null`. -/
theorem getD_free? (name : String) (v : Value) : (free? name v).getD .null = (v.get? name).getD .null := by
  unfold free?
  cases v.get? name with
  | none => rfl
  | some w => cases w <;> rfl

theorem bind_present?_free? (name : String) (v : Value) :
    (free? name v).bind Value.present? = free? name v := by
  unfold free?
  cases v.get? name with
  | none => rfl
  | some w => cases w <;> rfl

/-! ## Frames by kind -/

theorem suits_optional (name : String) (v : Value) : (Field.optional name).Suits v := by
  unfold Field.Suits Field.optional
  split
  · rfl
  · exact trivial

theorem suits_required_free {name : String} {v : Value} :
    (Field.required name .free).Suits v ↔ ∃ w, v.get? name = some w := by
  unfold Field.Suits Field.required
  dsimp only
  cases v.get? name <;> simp [FieldType.Holds]

section

variable {read : Value → Option α} {written : α → Value} (h : Accepts read written) {type : FieldType}
  (htype : ∀ w, type.Holds w ↔ ∃ a, w = written a) {name : String} {v : Value}
include h htype

theorem suits_required : (Field.required name type).Suits v ↔ ∃ a, typed read name v = some a := by
  simp only [typed_eq_some_iff h]
  unfold Field.Suits Field.required
  dsimp only
  cases v.get? name <;> simp [htype]

theorem suits_defaulted (absent : α) :
    (⟨name, type, some (written absent)⟩ : Field).Suits v ↔ ∃ a, typedOr read absent name v = some a := by
  simp only [typedOr_eq_some_iff h]
  unfold Field.Suits
  dsimp only
  cases v.get? name with
  | none => exact ⟨fun _ => ⟨absent, rfl⟩, fun _ => rfl⟩
  | some w => exact htype w

end

theorem holds_textOrNull (w : Value) :
    FieldType.textOrNull.Holds w ↔ ∃ s : Option String, w = (s.map Value.str).getD .null := by
  refine ⟨?_, ?_⟩
  · rintro (rfl | ⟨s, rfl⟩)
    · exact ⟨none, rfl⟩
    · exact ⟨some s, rfl⟩
  · rintro ⟨_ | s, rfl⟩
    · exact .inl rfl
    · exact .inr ⟨s, rfl⟩

theorem holds_word (w : Value) : FieldType.word.Holds w ↔ ∃ n : UInt64, w = .ofNat n.toNat := by
  refine ⟨?_, ?_⟩
  · rintro ⟨n, hn, rfl⟩
    exact ⟨.ofNat n, by rw [UInt64.toNat_ofNat', Nat.mod_eq_of_lt hn]⟩
  · rintro ⟨n, rfl⟩
    exact ⟨n.toNat, n.toNat_lt, rfl⟩

theorem exists_bind_eq_some {x : Option α} {g : α → Option β} :
    (∃ b, (x >>= g) = some b) ↔ ∃ a, x = some a ∧ ∃ b, g a = some b := by
  cases x <;> simp

/-- A value is read as a frame of a kind just if it suits every field of the kind. -/
theorem exists_ofMembers?_iff {k : Kind} (hk : k ≠ .text) {v : Value} :
    (∃ f, ofMembers? k v = some f) ↔ ∀ p ∈ k.fields, p.Suits v := by
  have htext := @suits_required _ _ _ accepts_text .text (fun _ => .rfl)
  have htexts := @suits_required _ _ _ accepts_texts .texts (fun _ => .rfl)
  have hword := @suits_required _ _ _ accepts_word .word holds_word
  have htextOr := @suits_defaulted _ _ _ accepts_text .text (fun _ => .rfl)
  have hflagOr := @suits_defaulted _ _ _ accepts_flag .flag (fun _ => .rfl)
  have htextsOr (name : String) : (⟨name, .texts, some (.arr [])⟩ : Field).Suits v ↔
      ∃ ts, typedOr Value.asStrings? [] name v = some ts :=
    suits_defaulted accepts_texts (fun _ => .rfl) []
  have hnullOr (name : String) : (⟨name, .textOrNull, some .null⟩ : Field).Suits v ↔
      ∃ s, typedOr optionalText? none name v = some s :=
    suits_defaulted accepts_textOrNull holds_textOrNull none
  cases k with
  | text => exact absurd rfl hk
  | _ =>
    simp only [Kind.fields, List.forall_mem_cons, List.not_mem_nil, false_implies, implies_true,
      and_true, true_and, suits_optional, suits_required_free, htext, htexts, hword, htextOr, hflagOr,
      htextsOr, hnullOr, ofMembers?, exists_bind_eq_some, Option.pure_def, Option.some.injEq,
      exists_eq', exists_and_right]

/-- The fields of a frame have the values that the object gives for them. -/
theorem field_of_ofMembers? {k : Kind} {v : Value} {f : Frame} (h : ofMembers? k v = some f) :
    ∀ p ∈ k.fields, f.field p.name = p.value v := by
  cases k <;> simp only [ofMembers?, bind, pure, Option.bind_eq_some_iff, Option.some.injEq,
    reduceCtorEq, typed_eq_some_iff accepts_text, typed_eq_some_iff accepts_texts,
    typed_eq_some_iff accepts_word, typedOr_eq_some_iff accepts_text,
    typedOr_eq_some_iff accepts_texts, typedOr_eq_some_iff accepts_flag,
    typedOr_eq_some_iff accepts_textOrNull, Option.map_none, Option.getD_none] at h
  case ready =>
    have hempty : Value.strings [] = .arr [] := rfl
    rw [hempty] at h
    obtain ⟨a, ha, b, hb, c, hc, d, hd, e, he, g, hg, i, hi, j, hj, rfl⟩ := h
    simp [Kind.fields, field, body, List.lookup_cons, Field.value, ha, hb, hc, hd, he, hg, hi, hj]
  case pong =>
    obtain ⟨seq, hseq, time, htime, rfl⟩ := h
    simp [Kind.fields, field, body, List.lookup_cons, Field.value, Field.required, hseq, htime]
  case loadError =>
    obtain ⟨specifier, hs, why, hw, rfl⟩ := h
    simp [Kind.fields, field, body, nullable, List.lookup_cons, List.lookup_append, lookup_omitted,
      Field.value, Field.required, Field.optional, hs, hw, getD_free?]
  case loaded =>
    obtain ⟨specifier, hs, modules, hm, rfl⟩ := h
    simp [Kind.fields, field, body, nullable, List.lookup_cons, Field.value, Field.required,
      Field.optional, hs, hm, getD_free?]
  case hostCall =>
    obtain ⟨id, hid, payload, hp, rfl⟩ := h
    simp [Kind.fields, field, body, List.lookup_cons, Field.value, Field.required, hid, hp]
  case messageResult | error | factorsUpdated | argumentsUpdated | shutdownAck =>
    obtain ⟨a, ha, rfl⟩ := h
    simp [Kind.fields, field, body, nullable, List.lookup_cons, Field.value, Field.required,
      Field.optional, ha, getD_free?]
  all_goals
    subst h
    simp [Kind.fields, field, body, nullable, List.lookup_cons, List.lookup_append, lookup_omitted,
      Field.value, Field.optional, getD_free?, freeOrNull]

/-- No optional value of a frame that was read is `null`. -/
theorem settled_of_ofMembers? {k : Kind} {v : Value} {f : Frame} (h : ofMembers? k v = some f) :
    f.settled = f := by
  cases k <;> simp only [ofMembers?, bind, pure, Option.bind_eq_some_iff, Option.some.injEq,
    reduceCtorEq] at h
  all_goals grind [settled, mapValues, bind_present?_free?]

/-- The members of a frame have the names of the fields of its kind. -/
theorem names_sublist (f : Frame) :
    (f.body.map Prod.fst).Sublist (f.kind.fields.map Field.name) := by
  cases f with
  | ping seq => cases seq <;> simp [body, omitted, kind, Kind.fields, Field.optional]
  | loadError id specifier why =>
    cases specifier <;>
      simp [body, omitted, nullable, kind, Kind.fields, Field.optional, Field.required]
  | factors id values value =>
    cases values <;> cases value <;>
      simp [body, omitted, nullable, kind, Kind.fields, Field.optional]
  | hostError id why => cases why <;> simp [body, omitted, kind, Kind.fields, Field.optional]
  | shutdown reason => cases reason <;> simp [body, omitted, kind, Kind.fields, Field.optional]
  | _ => exact List.Sublist.refl _

/-- A frame has no members but the fields of its kind. -/
theorem exists_field_of_mem {f : Frame} {m : String × Value} (hm : m ∈ f.body) :
    ∃ p ∈ f.kind.fields, f.field p.name = m.2 := by
  obtain ⟨p, hp, hname⟩ := List.mem_map.mp (f.names_sublist.subset (List.mem_map_of_mem hm))
  refine ⟨p, hp, ?_⟩
  have hnodup : (f.body.map Prod.fst).Nodup := (List.nodup_cons.mp f.keys_nodup).2
  obtain ⟨before, after, hbody⟩ := List.append_of_mem hm
  rw [hbody, List.map_append, List.map_cons, List.nodup_append] at hnodup
  have hlookup : f.body.lookup m.1 = some m.2 := by
    refine List.lookup_eq_some_iff.mpr ⟨before, after, hbody, fun q hq => bne_iff_ne.mpr ?_⟩
    exact (hnodup.2.2 _ (List.mem_map_of_mem hq) _ List.mem_cons_self).symm
  rw [field, hname, hlookup, Option.getD_some]

section

variable {P : Value → Prop} {v : Value} (hget : ∀ {name w}, v.get? name = some w → P w)
  (hnull : P .null) (htext : P (.str "")) (hflag : P (.bool false)) (htexts : P (.arr []))
include hget hnull htext hflag htexts

theorem body_of_ofMembers? {k : Kind} {f : Frame} (h : ofMembers? k v = some f) :
    ∀ m ∈ f.body, P m.2 := by
  intro m hm
  obtain ⟨p, hp, hfield⟩ := exists_field_of_mem hm
  rw [kind_of_ofMembers? h] at hp
  rw [← hfield, field_of_ofMembers? h p hp, Field.value]
  have habsent : P (p.absent.getD .null) := by
    cases k <;> simp only [Kind.fields, List.mem_cons, List.not_mem_nil, or_false] at hp
    all_goals grind [Field.optional, Field.required]
  cases hv : v.get? p.name with
  | none => exact habsent
  | some w => exact hget hv

/-- What holds of the members of an object, and of the values that stand for a missing one, holds of all that
a frame has from it. -/
theorem body_ofValue : ∀ m ∈ (ofValue v).body, P m.2 := by
  obtain h | ⟨k, h⟩ := ofValue_cases v
  · rw [h]
    intro m hm
    obtain rfl := List.mem_singleton.mp hm
    show P ((v.get? "type").getD .null)
    cases ht : v.get? "type" with
    | none => exact hnull
    | some t => exact hget ht
  · exact body_of_ofMembers? hget hnull htext hflag htexts h

end

end ScriptLink.Frame
