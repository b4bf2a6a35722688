import ScriptLink.Proofs.Frame.Reading
import ScriptLink.Proofs.Host.Drive
import ScriptLink.Session.Dispatch

/-!
# ScriptLink.Proofs.Host.Answer — how the answer to a call arrives

The host answers a call with what the operation gave, in an object of its own. An echo puts the payload
two levels below the answer, one deeper than it was in the call, while the reader of the session has the
same limit as that of the host.

* `execute_ok`: what the operations give; only an echo gives as deep a value as the payload.
* `Settles id line`: the line is read as the reply to the calls with the given id.
* `settles_answer`: which answers settle their calls.
-/

namespace ScriptLink

/-! ## Operations -/

namespace HostCall

theorem keys_outcome : "op" < "output" := by decide

theorem outcome_eq (op : String) (output : Value) :
    outcome op output = .obj [("op", .str op), ("output", output)] :=
  Value.object_of_pairwise (List.pairwise_pair.mpr keys_outcome)

theorem depth_outcome (op : String) (output : Value) : (outcome op output).depth = output.depth + 1 := by
  rw [outcome_eq]
  simp [Value.depth, Value.depthOfMembers]

theorem execute_echo {payload : Value} (h : operation payload = "echo") :
    execute payload = .ok (outcome "echo" payload) := by
  unfold execute
  rw [h]
  rfl

/-- What the operations give: a value that nests no further, or the payload back. -/
theorem execute_ok {payload v : Value} (he : payload.Exact) (hs : payload.Sorted)
    (h : execute payload = .ok v) : ∃ op output, v = outcome op output ∧ output.Exact ∧ output.Sorted ∧
      (output.depth = 0 ∨ operation payload = "echo" ∧ output = payload) := by
  unfold execute at h
  split at h
  · unfold uppercase at h
    split at h
    · cases h
      exact ⟨_, _, rfl, trivial, trivial, .inl rfl⟩
    · cases h
  · unfold sum at h
    split at h
    · cases h
    · split at h
      · cases h
      · rename_i xs _
        cases h
        cases hx : Binary64.sum? xs with
        | none => exact ⟨_, _, rfl, trivial, trivial, .inl rfl⟩
        | some x =>
          have hreread := Number.reread_real (Binary64.canonical_of_sum? hx)
          exact ⟨_, _, rfl, hreread, trivial, .inl rfl⟩
  · rename_i hecho
    cases h
    exact ⟨_, _, rfl, he, hs, .inr ⟨hecho, rfl⟩⟩
  · cases h

end HostCall

/-! ## Replies -/

namespace Frame

/-- The reply to a call that a frame brings. -/
def reply? : Frame → Option HostReply
  | .hostResult id result => some (.result id result)
  | .hostError id why => some (.error id (Value.plainOr Dispatcher.defaultHostError why))
  | _ => none

theorem dispatch_of_reply? {f : Frame} {r : HostReply} (h : f.reply? = some r) (now : UInt64)
    (s : Dispatcher σ) : s.dispatch now f = s.onReply r := by
  cases f with
  | hostResult | hostError =>
    obtain rfl := Option.some.inj h
    rfl
  | _ => cases h

end Frame

/-- Once a reply is taken, nothing awaits it. -/
theorem Ledger.awaits_settle (l : Ledger) (r : HostReply) : (l.settle r).awaits r.id.plain = false := by
  rw [Ledger.awaits, Ledger.settle, List.contains_eq_mem, decide_eq_false_iff_not]
  exact l.nodup.not_mem_erase

namespace Driver

open ScriptLink.Frame (decode)

/-- The line is read as a reply to the calls with the given id: a session takes it as one, and then no
call with that id is open. -/
def Settles (id : Value) (line : String) : Prop :=
  ∃ r, (decode line).reply? = some r ∧ r.id = id ∧
    (∀ l : Ledger, (l.settle r).awaits id.plain = false) ∧
    ∀ (σ : Type) (s : Dispatcher σ) (now : UInt64), s.dispatch now (decode line) = s.onReply r

theorem id_reply?_answer (executor : HostCall.Executor) (id payload : Value) :
    ∃ r, (answer executor id payload).reply? = some r ∧ r.id = id := by
  unfold answer
  split <;> exact ⟨_, rfl, rfl⟩

/-- An answer that is read as what it is settles its call. -/
theorem settles_of_decode {executor : HostCall.Executor} {id payload : Value}
    (h : decode (answer executor id payload).encode = answer executor id payload) :
    Settles id (answer executor id payload).encode := by
  obtain ⟨r, hr, hid⟩ := id_reply?_answer executor id payload
  rw [← h] at hr
  exact ⟨r, hr, hid, fun l => hid ▸ l.awaits_settle r, fun σ s now => Frame.dispatch_of_reply? hr now s⟩

/-- An answer is read as what it is if its result can be carried. -/
theorem decode_answer {executor : HostCall.Executor} {id payload : Value} (hid : id.Portable)
    (hs : id.Sorted) (h : ∀ v, executor payload = .ok v → v.Portable ∧ v.Sorted) :
    decode (answer executor id payload).encode = answer executor id payload := by
  unfold answer
  split
  · rename_i v hv
    obtain ⟨hvp, hvs⟩ := h v hv
    rw [Frame.decode_encode_of_portable Frame.Kind.noConfusion, Frame.canonical_of_sorted]
    · rfl
    · exact ⟨hs, hvs, trivial⟩
    · simp [Frame.Portable, Frame.body, hid, hvp]
  · rw [Frame.decode_encode_of_portable Frame.Kind.noConfusion, Frame.canonical_of_sorted]
    · rfl
    · exact ⟨hs, trivial, trivial⟩
    · simp [Frame.Portable, Frame.body, Frame.omitted, hid]

/-- What is in a call that was read. -/
theorem of_decode_hostCall {line : String} {id payload : Value}
    (h : decode line = .hostCall id payload) :
    (id.Portable ∧ id.Sorted) ∧ payload.Portable ∧ payload.Sorted := by
  obtain ⟨v, hv, hmembers⟩ := Frame.of_decode h ⟨nofun, nofun⟩
  obtain ⟨hd, he⟩ := Value.ofText?_exact hv
  have hs := Value.ofText?_sorted hv
  simp only [Frame.kind, Frame.ofMembers?, bind, pure, Option.bind_eq_some_iff, Option.some.injEq]
    at hmembers
  obtain ⟨i, hi, p, hp, heq⟩ := hmembers
  cases heq
  exact ⟨⟨Value.portable_of_get? hd he hi, Value.sorted_of_get? hs hi⟩,
    Value.portable_of_get? hd he hp, Value.sorted_of_get? hs hp⟩

/-- The answer to a call that was read is read as what it is, unless it is too deep an echo. -/
theorem decode_answer_of_fits {line : String} {id payload : Value}
    (h : decode line = .hostCall id payload)
    (hfits : HostCall.operation payload = "echo" → payload.depth ≤ 125) :
    decode (answer HostCall.execute id payload).encode = answer HostCall.execute id payload := by
  obtain ⟨⟨hid, hids⟩, ⟨-, hexact⟩, hsorted⟩ := of_decode_hostCall h
  refine decode_answer hid hids fun v hv => ?_
  obtain ⟨op, output, rfl, he, hs, hout⟩ := HostCall.execute_ok hexact hsorted hv
  have hle : output.depth ≤ 125 := by
    rcases hout with hzero | ⟨hop, rfl⟩
    · omega
    · exact hfits hop
  have hdepth : (HostCall.outcome op output).depth ≤ 126 := by
    rw [HostCall.depth_outcome]
    omega
  rw [HostCall.outcome_eq] at hdepth ⊢
  exact ⟨⟨hdepth, trivial, he, trivial⟩, List.pairwise_pair.mpr HostCall.keys_outcome, trivial, hs, trivial⟩

/-- An echo of a payload that nests 126 deep leaves a line that is no JSON. -/
theorem decode_echo_deep (id : Value) {payload : Value} (hop : HostCall.operation payload = "echo")
    (hd : 125 < payload.depth) : decode (answer HostCall.execute id payload).encode =
      .text (answer HostCall.execute id payload).encode := by
  have hanswer : answer HostCall.execute id payload =
      .hostResult id (HostCall.outcome "echo" payload) := by
    rw [answer, HostCall.execute_echo hop]
  have hdepth : 127 < (Frame.hostResult id (HostCall.outcome "echo" payload)).depth := by
    have := HostCall.depth_outcome "echo" payload
    simp only [Frame.depth, Frame.members, Frame.body, Value.depth, Value.depthOfMembers]
    omega
  rw [hanswer, Frame.decode_encode, if_neg (by omega)]

/-- **Calls and answers.** For every line that a driver reads as a call it writes one line. The session reads
that line as the answer to the call, with the id that the call had, and taking it leaves no call with that id
open, just if the call does not ask for an echo of a payload that nests 126 deep, the most that a call
carries. The line of such an echo is no JSON to the session, which stays as it is, with the call open. -/
theorem settles_answer {d : Driver} (hx : d.executor = HostCall.execute) {line : String}
    {id payload : Value} (h : decode line = .hostCall id payload) :
    ∃ sent, (d.handle (.frame line)).sends.map Outgoing.line = [sent] ∧
      (Settles id sent ↔ (HostCall.operation payload = "echo" → payload.depth ≤ 125)) ∧
      (Settles id sent → decode sent = answer HostCall.execute id payload) ∧
      (¬Settles id sent → payload.depth = 126 ∧ decode sent = .text sent ∧
        ∀ (σ : Type) (s : Dispatcher σ) (now : UInt64), (s.dispatch now (decode sent)).next = s) := by
  have hsends : (d.handle (.frame line)).sends.map Outgoing.line =
      [(answer HostCall.execute id payload).encode] := by
    show (d.onFrame line).sends.map Outgoing.line = _
    unfold onFrame
    rw [h, ← hx]
    rfl
  refine ⟨_, hsends, ?_⟩
  by_cases hfits : HostCall.operation payload = "echo" → payload.depth ≤ 125
  · have hanswer := decode_answer_of_fits h hfits
    have hsettles := settles_of_decode hanswer
    exact ⟨⟨fun _ => hfits, fun _ => hsettles⟩, fun _ => hanswer, fun hn => absurd hsettles hn⟩
  · obtain ⟨hop, hdeep⟩ := Classical.not_imp.mp hfits
    have hdepth := (of_decode_hostCall h).2.1.1
    have hlost := decode_echo_deep id hop (Nat.lt_of_not_le hdeep)
    have hn : ¬Settles id (answer HostCall.execute id payload).encode := by
      rintro ⟨r, hr, -⟩
      rw [hlost] at hr
      cases hr
    refine ⟨⟨fun hs => absurd hs hn, fun hf => absurd hf hfits⟩, fun hs => absurd hs hn,
      fun _ => ⟨by omega, hlost, fun σ s now => ?_⟩⟩
    rw [hlost]
    rfl

/-- A call with an array in it is read as one as long as the array can be carried. -/
theorem decode_call_nested {n : Nat} (h : n < 126) :
    decode (Frame.hostCall (.str "c") (.nested n)).encode = .hostCall (.str "c") (.nested n) := by
  have hportable : (Value.nested n).Portable := by
    refine ⟨?_, Value.exact_nested n⟩
    rw [Value.depth_nested]
    omega
  rw [Frame.decode_encode_of_portable Frame.Kind.noConfusion, Frame.canonical_of_sorted]
  · rfl
  · exact ⟨trivial, Value.sorted_nested n, trivial⟩
  · simp [Frame.Portable, Frame.body, hportable]

theorem operation_nested (n : Nat) : HostCall.operation (.nested n) = "echo" := by
  cases n <;> rfl

/-- The deepest array that is echoed settles its call. -/
theorem settles_answer_nested :
    decode (Frame.hostCall (.str "c") (.nested 124)).encode = .hostCall (.str "c") (.nested 124) ∧
    ∃ sent, ((start .persistent {} HostCall.execute).handle
        (.frame (Frame.hostCall (.str "c") (.nested 124)).encode)).sends.map Outgoing.line = [sent] ∧
      decode sent = .hostResult (.str "c") (HostCall.outcome "echo" (.nested 124)) ∧
      Settles (.str "c") sent := by
  have hcall := decode_call_nested (n := 124) (by decide)
  obtain ⟨sent, hsent, hiff, hread, -⟩ :=
    settles_answer (d := start .persistent {} HostCall.execute) rfl hcall
  have hsettles : Settles (.str "c") sent := hiff.mpr fun _ => by rw [Value.depth_nested]
  refine ⟨hcall, sent, hsent, ?_, hsettles⟩
  rw [hread hsettles, answer, HostCall.execute_echo (operation_nested 124)]

/-- An array that nests one deeper is read in a call, but its echo is not read as a reply. -/
theorem answer_nested_lost :
    decode (Frame.hostCall (.str "c") (.nested 125)).encode = .hostCall (.str "c") (.nested 125) ∧
    ∃ sent, ((start .persistent {} HostCall.execute).handle
        (.frame (Frame.hostCall (.str "c") (.nested 125)).encode)).sends.map Outgoing.line = [sent] ∧
      (decode sent).reply? = none := by
  have hcall := decode_call_nested (n := 125) (by decide)
  have hdeep : 125 < (Value.nested 125).depth := by
    rw [Value.depth_nested]
    decide
  refine ⟨hcall, (answer HostCall.execute (.str "c") (.nested 125)).encode, ?_, ?_⟩
  · show ((start .persistent {} HostCall.execute).onFrame _).sends.map Outgoing.line = _
    rw [onFrame, hcall]
    rfl
  · rw [decode_echo_deep _ (operation_nested 125) hdeep]
    rfl

end Driver

end ScriptLink
