import ScriptLink.Proofs.Frame.Reading
import ScriptLink.Proofs.Host.Persistent

/-!
# ScriptLink.Proofs.Host.Forwarding — how external input arrives

The host puts a value of external input into an object of its own, one level deeper than it was. The
reader of the session has the same limit as that of the host, so a value at the limit does not arrive as
one.

* `decode_wrapPayload`: a payload that nests at most 126 deep arrives; `decode_wrapPayload_deep`: a deeper
  one leaves a line that is no JSON.
* `decode_forwarded`: what the session reads for every line of external input.
-/

namespace ScriptLink.Frame

theorem depth_wrapPayload (v : Value) : (wrapPayload v).depth = v.depth + 1 := by
  rw [wrapPayload_eq]
  simp [Value.depth, Value.depthOfMembers]

theorem ofValue_wrapPayload (v : Value) : ofValue (wrapPayload v) = .externalMessage none v := by
  have hget (key : String) :
      (wrapPayload v).get? key = [("payload", v), ("type", .str Kind.externalMessage.name)].lookup key := by
    rw [wrapPayload_eq]
    rfl
  have htype : receivedType (wrapPayload v) = .str Kind.externalMessage.name := by
    unfold receivedType freeOrNull
    rw [hget]
    rfl
  have hmembers : ofMembers? .externalMessage (wrapPayload v) = some (.externalMessage none v) := by
    simp only [ofMembers?, free?, freeOrNull, hget]
    rfl
  unfold ofValue
  rw [htype]
  dsimp only
  rw [Kind.ofName?_name, Option.bind_some, hmembers, Option.getD_some]

/-- A payload arrives with its object around it if it nests at most 126 deep. -/
theorem decode_wrapPayload {v : Value} (hd : v.depth ≤ 126) (he : v.Exact) (hs : v.Sorted) :
    decode (wrapPayload v).text = .externalMessage none v := by
  have hdepth : (wrapPayload v).depth ≤ 127 := by
    rw [depth_wrapPayload]
    omega
  rw [← ofValue_wrapPayload v]
  rw [wrapPayload_eq] at hdepth ⊢
  have hkeys : "payload" < "type" := by decide
  exact decode_obj_of_sorted hdepth ⟨he, trivial, trivial⟩
    ⟨List.pairwise_pair.mpr hkeys, hs, trivial, trivial⟩

/-- A payload that nests deeper leaves a line that is no JSON. -/
theorem decode_wrapPayload_deep {v : Value} (hd : 126 < v.depth) :
    decode (wrapPayload v).text = .text (wrapPayload v).text := by
  have hdepth := depth_wrapPayload v
  rw [wrapPayload_eq] at hdepth ⊢
  rw [decode_obj, if_neg (by omega)]

/-- An object with a member `type` is forwarded as it was read, anything else that was read as a
payload. -/
theorem ofExternal_of_ofText? {line : String} {v : Value} (h : Value.ofText? line = some v) :
    ofExternal line = if (v.get? "type").isSome then v else wrapPayload v := by
  unfold ofExternal
  rw [h]
  cases v <;> rfl

/-- **External input arrives**, one line for each, if it does not nest too deep. An object with a member
`type` is read as it would be on a line of its own, any other value as the payload of an external message,
and what is no JSON as the text of one; but a value that nests 127 deep, the most that is read at all, is
read by the host and not by the session, which is left with a line that is no JSON. -/
theorem decode_forwarded (line : String) (d : Driver) :
    (d.handle (.external line)).sends.map Outgoing.line = [forwarded line] ∧
    (∀ v, Value.ofText? line = some v →
      ((v.get? "type").isSome = true → decode (forwarded line) = decode line) ∧
      (v.get? "type" = none →
        (v.depth ≤ 126 → decode (forwarded line) = .externalMessage none v) ∧
        (126 < v.depth → v.depth = 127 ∧ decode (forwarded line) = .text (forwarded line)))) ∧
    (Value.ofText? line = none → decode (forwarded line) = .externalMessage none (.str line)) := by
  refine ⟨?_, fun v hv => ⟨fun htype => ?_, fun htype => ?_⟩, fun hnone => ?_⟩
  · rcases (d.forwards_handle (.external line)).sends with ⟨l, hl, h⟩ | ⟨h, -⟩
    · rw [h, Option.some.inj hl]
    · cases h
  · rw [decode_of_ofText? hv, forwarded, ofExternal_of_ofText? hv, if_pos htype]
    cases v with
    | obj members =>
      cases members with
      | nil => cases htype
      | cons m ms => exact decode_text_obj hv
    | _ => cases htype
  · obtain ⟨hdepth, he⟩ := Value.ofText?_exact hv
    have hwrap : ofExternal line = wrapPayload v := by
      rw [ofExternal_of_ofText? hv, htype]
      rfl
    rw [forwarded, hwrap]
    exact ⟨fun hd => decode_wrapPayload hd he (Value.ofText?_sorted hv),
      fun hd => ⟨by omega, decode_wrapPayload_deep hd⟩⟩
  · have hwrap : ofExternal line = wrapPayload (.str line) := by
      rw [ofExternal, hnone]
    rw [forwarded, hwrap]
    exact decode_wrapPayload (Nat.zero_le _) trivial trivial

/-- The deepest array that the host reads does not arrive. -/
theorem decode_forwarded_nested : Value.ofText? (Value.nested 126).text = some (Value.nested 126) ∧
    (Value.nested 126).get? "type" = none ∧
    decode (forwarded (Value.nested 126).text) ≠ .externalMessage none (Value.nested 126) := by
  have hv : Value.ofText? (Value.nested 126).text = some (Value.nested 126) := by
    rw [Value.ofText?_nested, if_pos (by decide)]
  refine ⟨hv, rfl, ?_⟩
  have hdepth : 126 < (Value.nested 126).depth := by
    rw [Value.depth_nested]
    decide
  rw [forwarded, ofExternal_of_ofText? hv, if_neg (by rw [Value.nested]; decide),
    decode_wrapPayload_deep hdepth]
  exact Frame.noConfusion

end ScriptLink.Frame
