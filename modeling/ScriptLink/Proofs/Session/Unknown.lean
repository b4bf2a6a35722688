import ScriptLink.Proofs.Frame.Reading
import ScriptLink.Proofs.Session.Replies

/-!
# ScriptLink.Proofs.Session.Unknown — what the answer to an unhandled frame names

* `Frame.declined` is what a session names of a frame that it does not handle; `dispatch_unknown`: it answers
  such a frame with that alone, and stays as it is.
* `declined_ofValue`: of JSON this is the value of the member `type`, unless that is itself such an answer.
* `unknown_names` puts the two together for every line; `unknown_repeats` is a line for which the answer names
  another value than that of `type`.
-/

namespace ScriptLink

namespace Frame

/-- What a session names of a frame that it does not handle. -/
def declined : Frame → Value
  | .unknown received => received
  | .text _ => .null
  | f => .str f.kind.name

theorem declined_ofMembers? {k : Kind} {v : Value} {f : Frame} (h : ofMembers? k v = some f)
    (hk : k ≠ .unknown) : f.declined = .str k.name := by
  obtain rfl := kind_of_ofMembers? h
  cases f with
  | unknown received => exact absurd rfl hk
  | text raw => cases h
  | _ => rfl

/-- A value that is itself an answer to an unhandled frame is named by what it gives. -/
theorem declined_ofValue_unknown {v : Value} (h : receivedType v = .str Kind.unknown.name) :
    (ofValue v).declined = freeOrNull "receivedType" v := by
  rw [ofValue_of_name h]
  rfl

/-- Any other value is named by its member `type`, whether it has the members of that kind or not. -/
theorem declined_ofValue {v : Value} (hu : receivedType v ≠ .str Kind.unknown.name) :
    (ofValue v).declined = receivedType v := by
  by_cases hf : ∃ k f, receivedType v = .str k.name ∧ ofMembers? k v = some f
  · obtain ⟨k, f, hk, hf⟩ := hf
    rw [ofValue_of_name hk, hf, hk]
    exact declined_ofMembers? hf fun h => hu (h ▸ hk)
  · have hnone : ∀ k, receivedType v = .str k.name → ofMembers? k v = none := fun k hk =>
      Option.eq_none_iff_forall_ne_some.mpr fun f hm => hf ⟨k, f, hk, hm⟩
    rw [ofValue_eq_unknown hnone]
    rfl

end Frame

namespace Value

/-- An object of two texts with its keys in order is read from its own text. -/
theorem ofText?_texts {a b s t : String} (h : a < b) :
    ofText? (obj [(a, .str s), (b, .str t)]).text =
      some (.obj [(a, .str s), (b, .str t)]) := by
  have hs : (obj [(a, .str s), (b, .str t)]).Sorted := by
    refine ⟨?_, trivial, trivial, trivial⟩
    simpa using h
  have he : (obj [(a, .str s), (b, .str t)]).Exact := ⟨trivial, trivial, trivial⟩
  exact ofText?_of_sorted (by simp [depth, depthOfMembers]) he hs

end Value

namespace Dispatcher

/-- A frame that is answered as unhandled is answered by that alone, and leaves the session as it is. -/
theorem dispatch_unknown {now : UInt64} {f : Frame} {received : Value} {d : Dispatcher σ}
    (h : .unknown received ∈ (d.dispatch now f).replies) :
    received = f.declined ∧ d.dispatch now f = d.reply (.unknown received) := by
  have hk : Frame.Kind.unknown ∈ answerKinds f.kind := (answers_of_mem_replies h).kind
  have hd : d.dispatch now f = d.reply (.unknown f.declined) := by
    cases f with
    | ping | message | externalMessage | load | factors | arguments | hostResult | hostError
    | shutdown => simp [Frame.kind, answerKinds] at hk
    | _ => rfl
  rw [hd] at h ⊢
  cases List.mem_singleton.mp h
  exact ⟨rfl, rfl⟩

/-- **Answers to unhandled lines**: whenever a session answers a line as unhandled, that is its only answer
and nothing of the session changes. The answer gives `null` if the line is no JSON, and else the value of its
last member `type`, or `null` if there is none; only of a line that is itself such an answer, with the type
`unknown`, it gives what that gives in `receivedType`. -/
theorem unknown_names {now : UInt64} {line : String} {received : Value} {d : Dispatcher σ}
    (h : .unknown received ∈ (d.dispatch now (Frame.decode line)).replies) :
    d.dispatch now (Frame.decode line) = ⟨d, [.unknown received], .proceed⟩ ∧
    (Value.ofText? (Frame.withoutEnd line) = none → received = .null) ∧
    ∀ v, Value.ofText? (Frame.withoutEnd line) = some v →
      (v.get? "type" ≠ some (.str "unknown") → received = (v.get? "type").getD .null) ∧
      (v.get? "type" = some (.str "unknown") → received = (v.get? "receivedType").getD .null) := by
  obtain ⟨rfl, hd⟩ := dispatch_unknown h
  refine ⟨hd, fun hnone => ?_, fun v hv => ⟨fun ht => ?_, fun ht => ?_⟩⟩
  · rw [Frame.decode, hnone]
    rfl
  · have hu : Frame.receivedType v ≠ .str Frame.Kind.unknown.name := by
      intro hu
      unfold Frame.receivedType Frame.freeOrNull at hu
      cases hg : v.get? "type" with
      | none => rw [hg] at hu; cases hu
      | some w =>
        rw [hg] at hu
        exact ht (hg.trans (congrArg some hu))
    rw [Frame.decode, hv]
    exact Frame.declined_ofValue hu
  · have hu : Frame.receivedType v = .str Frame.Kind.unknown.name := by
      rw [Frame.receivedType, Frame.freeOrNull, ht]
      rfl
    rw [Frame.decode, hv]
    exact Frame.declined_ofValue_unknown hu

/-- A line of a kind that only sessions write is answered by the name of the kind. -/
theorem unknown_names_ack :
    let d := ofTarget ⟨.ofFind fun _ => .ok {}, []⟩ ⟨"a", [], [], []⟩ ⟨["a"], ()⟩ {}
    let line := "\x7b\"reason\":\"x\",\"type\":\"shutdown_ack\"\x7d"
    .unknown (.str "shutdown_ack") ∈ (d.dispatch 7 (Frame.decode line)).replies ∧
    d.dispatch 7 (Frame.decode line) = ⟨d, [.unknown (.str "shutdown_ack")], .proceed⟩ := by
  intro d line
  have hline : line =
      (Value.obj [("reason", .str "x"), ("type", .str "shutdown_ack")]).text := by decide +kernel
  have h : .unknown (.str "shutdown_ack") ∈ (d.dispatch 7 (Frame.decode line)).replies := by
    rw [hline, Frame.decode_of_ofText? (Value.ofText?_texts (by decide))]
    exact List.mem_singleton_self _
  exact ⟨h, (unknown_names h).1⟩

/-- A line that is itself the answer to an unhandled one is answered as if what that names had come again. -/
theorem unknown_repeats :
    let d := ofTarget ⟨.ofFind fun _ => .ok {}, []⟩ ⟨"a", [], [], []⟩ ⟨["a"], ()⟩ {}
    let line := "\x7b\"receivedType\":\"x\",\"type\":\"unknown\"\x7d"
    (∃ v, Value.ofText? (Frame.withoutEnd line) = some v ∧ v.get? "type" = some (.str "unknown")) ∧
    (d.dispatch 7 (Frame.decode line)).replies = [.unknown (.str "x")] := by
  intro d line
  have hline : line =
      (Value.obj [("receivedType", .str "x"), ("type", .str "unknown")]).text := by decide +kernel
  have hv : Value.ofText? line =
      some (.obj [("receivedType", .str "x"), ("type", .str "unknown")]) := by
    rw [hline]
    exact Value.ofText?_texts (by decide)
  refine ⟨⟨_, Frame.ofText?_withoutEnd hv, rfl⟩, ?_⟩
  rw [Frame.decode_of_ofText? hv]
  rfl

end Dispatcher

end ScriptLink
