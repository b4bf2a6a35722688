import ScriptLink.Proofs.Host.Drive

/-!
# ScriptLink.Proofs.Frame.External — what a session makes of external input

* `decode_text_obj`: an object that was read is decoded, from its own text, as what it is.
* `tells_shutdown_ofExternal`: the host takes a line of external input for a request to stop just if the
  session does once it is forwarded; `decode_ofExternal_of_shutdown`: the session reads its reason as the
  host does.
-/

namespace ScriptLink.Frame

/-- An object that was read is decoded as what it is. -/
theorem decode_text_obj {line : String} {m : String × Value} {ms : List (String × Value)}
    (h : Value.ofText? line = some (.obj (m :: ms))) :
    decode (Value.obj (m :: ms)).text = ofValue (.obj (m :: ms)) := by
  unfold decode
  rw [withoutEnd_obj, Value.ofText?_reread h]

/-- What a value is decoded as, unless it is not understood, is what its member `type` names. -/
theorem name_kind_ofValue {v : Value} {name : String} (ht : receivedType v = .str name)
    (h : (ofValue v).kind ≠ .unknown) : (ofValue v).kind.name = name := by
  have hname := (of_ofValue rfl h).1
  rw [ht] at hname
  exact (Value.str.inj hname).symm

/-- A value that names a shutdown is one, whatever its other members are. -/
theorem ofValue_of_shutdown {v : Value} (h : receivedType v = .str Kind.shutdown.name) :
    ofValue v = .shutdown (free? "reason" v) := by
  have hread : ofMembers? .shutdown v = some (.shutdown (free? "reason" v)) := rfl
  unfold ofValue
  rw [h]
  dsimp only
  rw [Kind.ofName?_name, Option.bind_some, hread, Option.getD_some]

/-- A value is a shutdown just if its member `type` says so. -/
theorem kind_ofValue_eq_shutdown {v : Value} :
    (ofValue v).kind = .shutdown ↔ receivedType v = .str Kind.shutdown.name := by
  constructor
  · intro h
    cases ht : receivedType v with
    | str name => rw [← name_kind_ofValue ht (by rw [h]; exact Kind.noConfusion), h]
    | _ =>
      unfold ofValue at h
      rw [ht] at h
      cases h
  · intro ht
    rw [ofValue_of_shutdown ht]
    rfl

theorem isShutdown_iff {v : Value} :
    Driver.isShutdown v = true ↔ receivedType v = .str Kind.shutdown.name := by
  unfold Driver.isShutdown receivedType freeOrNull
  cases v.get? "type" with
  | none => simp
  | some w => cases w <;> simp [Value.asString?]

theorem wrapPayload_eq (payload : Value) :
    wrapPayload payload = .obj [("payload", payload), ("type", .str Kind.externalMessage.name)] := by
  have hkeys : "payload" < "type" := by decide
  unfold wrapPayload Value.object
  rw [List.foldl_cons, List.foldl_cons, List.foldl_nil, Value.insertMember, Value.insertMember,
    if_pos hkeys]

/-- A payload is forwarded as such, or not understood; it never stops a session. -/
theorem tells_shutdown_wrapPayload (payload : Value) :
    tells .shutdown (wrapPayload payload).text = false := by
  rw [wrapPayload_eq, Bool.eq_false_iff]
  intro h
  rw [tells_iff, decode_obj] at h
  split at h
  · cases hp : payload.reread with
    | none =>
      rw [Value.rereadMembers, hp] at h
      cases h
    | some w =>
      have hr : Value.rereadMembers [("payload", payload),
          ("type", Value.str Kind.externalMessage.name)] =
          some [("payload", w), ("type", .str Kind.externalMessage.name)] := by
        rw [Value.rereadMembers, hp]
        rfl
      have ht : receivedType (.object [("payload", w), ("type", .str Kind.externalMessage.name)]) =
          .str Kind.externalMessage.name := by
        unfold receivedType freeOrNull
        rw [Value.get?_object]
        rfl
      rw [hr] at h
      rcases kind_ofValue ht with hk | hk <;> rw [hk] at h <;> cases h
  · cases h

theorem isShutdown_wrapPayload (payload : Value) :
    Driver.isShutdown (wrapPayload payload) = false := by
  unfold Driver.isShutdown wrapPayload
  rw [Value.get?_object]
  rfl

/-- A request to stop is one for the host just if it is one for the session. -/
theorem tells_shutdown_ofExternal (line : String) :
    tells .shutdown (ofExternal line).text = Driver.isShutdown (ofExternal line) := by
  have hwrap (payload : Value) : tells .shutdown (wrapPayload payload).text =
      Driver.isShutdown (wrapPayload payload) := by
    rw [tells_shutdown_wrapPayload, isShutdown_wrapPayload]
  unfold ofExternal
  split
  · rename_i members hread
    split
    · rename_i htype
      cases members with
      | nil => cases htype
      | cons m ms =>
        rw [Bool.eq_iff_iff, tells_iff, decode_text_obj hread, kind_ofValue_eq_shutdown,
          isShutdown_iff]
    · exact hwrap _
  · exact hwrap _
  · exact hwrap _

/-- A request to stop that the host forwards is decoded with the reason that it had. -/
theorem decode_ofExternal_of_shutdown {line : String}
    (h : Driver.isShutdown (ofExternal line) = true) :
    decode (ofExternal line).text = .shutdown (free? "reason" (ofExternal line)) := by
  have hwrap (payload : Value) : ¬Driver.isShutdown (wrapPayload payload) = true := by
    rw [isShutdown_wrapPayload]
    exact Bool.noConfusion
  unfold ofExternal at h ⊢
  split at h
  · rename_i members hread
    split at h
    · rename_i htype
      cases members with
      | nil => cases htype
      | cons m ms =>
        rw [if_pos htype, decode_text_obj hread]
        exact ofValue_of_shutdown (isShutdown_iff.mp h)
    · exact absurd h (hwrap _)
  · exact absurd h (hwrap _)
  · exact absurd h (hwrap _)

end ScriptLink.Frame
