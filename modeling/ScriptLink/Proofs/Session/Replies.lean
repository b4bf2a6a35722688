import ScriptLink.Session.Dispatch

/-!
# ScriptLink.Proofs.Session.Replies — what a dispatcher answers

* `Dispatcher.invoked` is what the handler does that a frame reaches: the handler that the target
  exports, or else the one of the global scope, run on the request that the frame makes.
* `Answered` says which frames answer a frame; `answered_dispatch` holds of every dispatcher, where
  the ledger says whether there was a ping before.
* `after_greeted`: that is so if and only if a ping was dispatched since the session began.
* `Answers`: a frame that answers another is of one of few kinds, and refers to no other request.
* `dispatch_accounts` puts these together for every dispatcher that a run reaches.
-/

namespace ScriptLink

namespace Dispatcher

/-! ## Runs -/

/-- The dispatcher after it took frames, each at its time. -/
def after (history : List (UInt64 × Frame)) (d : Dispatcher σ) : Dispatcher σ :=
  history.foldl (fun d m => (d.dispatch m.1 m.2).next) d

/-- The frames that answered a history, oldest first. -/
def outbox : List (UInt64 × Frame) → Dispatcher σ → List Frame
  | [], _ => []
  | (now, f) :: rest, d => (d.dispatch now f).replies ++ outbox rest (d.dispatch now f).next

/-- The frames that answer one more frame come after those before. -/
theorem outbox_concat (history : List (UInt64 × Frame)) (now : UInt64) (f : Frame)
    (d : Dispatcher σ) : d.outbox (history ++ [(now, f)]) =
      d.outbox history ++ ((d.after history).dispatch now f).replies := by
  induction history generalizing d with
  | nil =>
    rw [List.nil_append, outbox, outbox, outbox, List.append_nil, List.nil_append]
    rfl
  | cons m rest ih =>
    obtain ⟨t, g⟩ := m
    rw [List.cons_append, outbox, outbox, ih, List.append_assoc]
    rfl

/-! ## Handlers -/

/-- What a handler does with a request in the given state; without a handler, nothing. -/
def told (h : Option (Handler σ ρ Unit)) (request : ρ) (state : SessionState) (memory : σ) :
    Outcome Value :=
  match h with
  | some h =>
    let outcome := (h request state memory).1
    ⟨outcome.calls, outcome.result.map fun _ => .null⟩
  | none => Outcome.pure .null

/-- What the handler of messages does, or else that of text requests; without either the result is
`null`. -/
def heard (m : Delivery) (d : Dispatcher σ) : Outcome Value :=
  match d.exports.message.or d.scene.globals.message, d.scene.globals.request with
  | some h, _ => (h m d.scene.state d.scene.trail.memory).1
  | none, some h => (h m.payload.plain d.scene.state d.scene.trail.memory).1
  | none, none => Outcome.pure .null

/-- What the handler of replies to host calls does. -/
def toldReply (r : HostReply) (d : Dispatcher σ) : Outcome Value :=
  told (d.exports.reply.or d.scene.globals.reply) r d.scene.state d.scene.trail.memory

/-- What the handler of factors does, which hears of a request only if it appends some, and then in
the state with them. -/
def toldFactors (id values value : Option Value) (d : Dispatcher σ) : Outcome Value :=
  let added := contributed values value
  let state := d.scene.state.extend added
  if added.isEmpty then Outcome.pure .null
  else told (d.exports.factors.or d.scene.globals.factors) ⟨id, added, state.factors⟩ state
    d.scene.trail.memory

/-- What the handler does that a frame reaches. -/
def invoked (f : Frame) (d : Dispatcher σ) : Outcome Value :=
  match f with
  | .message id payload => d.heard ⟨.host, id, payload⟩
  | .externalMessage id payload => d.heard ⟨.external, id, payload⟩
  | .factors id values value => d.toldFactors id values value
  | .hostResult id result => d.toldReply (.result id result)
  | .hostError id why => d.toldReply (.error id (Value.plainOr defaultHostError why))
  | _ => Outcome.pure .null

end Dispatcher

/-! ## Answers -/

namespace Frame

/-- Whether a frame is a ping. -/
def isPing : Frame → Bool
  | .ping _ => true
  | _ => false

/-- The id of a request, or the one to which a reply to it refers. -/
def requestId? : Frame → Option (Option Value)
  | .message id _ | .externalMessage id _ | .messageResult id _ | .error id _ => some id
  | .load id _ | .loaded id _ _ | .loadError id _ _ => some id
  | .factors id _ _ | .factorsUpdated id _ | .arguments id _ | .argumentsUpdated id _ => some id
  | _ => none

end Frame

/-- The frames `replies` answer the frame, at the time `now`, of which a handler made the outcome;
`greeted` says that there was a ping before. -/
def Answered (greeted : Bool) (now : UInt64) (outcome : Outcome Value) (replies : List Frame) :
    Frame → Prop
  | .ping seq => replies = .pong (seq.getD .null) now ::
      if greeted then [] else [(Ledger.greeting seq now).frame]
  | .message id _ | .externalMessage id _ =>
    replies = outcome.calls.map HostCall.frame ++ [match outcome.result with
      | .ok v => .messageResult id v
      | .error e => .error id e.why]
  | .load id _ => (∃ specifier modules, replies = [.loaded id specifier modules]) ∨
      ∃ specifier why, replies = [.loadError id specifier why]
  | .factors id _ _ => ∃ list,
      replies = .factorsUpdated id list :: outcome.calls.map HostCall.frame
  | .arguments id _ => (∃ list, replies = [.argumentsUpdated id list]) ∨
      ∃ why, replies = [.error id why]
  | .hostResult _ _ | .hostError _ _ => replies = outcome.calls.map HostCall.frame
  | .shutdown _ => ∃ reason, replies = [.shutdownAck reason]
  | _ => ∃ received, replies = [.unknown received]

namespace Dispatcher

theorem told_some (h : Handler σ ρ Unit) (request : ρ) (state : SessionState) (memory : σ) :
    told (some h) request state memory = ⟨(h request state memory).1.calls,
      (h request state memory).1.result.map fun _ => .null⟩ := rfl

theorem notify_verdict (h : Handler σ ρ Unit) (request : ρ) (d : Dispatcher σ) :
    (d.notify h request).verdict =
      match (told (some h) request d.scene.state d.scene.trail.memory).result with
      | .ok _ => .proceed
      | .error f => .failure f := by
  rw [told_some]
  unfold notify invoke
  rcases h request d.scene.state d.scene.trail.memory with ⟨⟨calls, result⟩, memory⟩
  cases result <;> rfl

theorem answerMessage_outcome (m : Delivery) (d : Dispatcher σ) :
    (d.answerMessage m).1 = d.heard m := by
  unfold answerMessage heard messageHandler?
  cases d.exports.message.or d.scene.globals.message with
  | some h => rfl
  | none => cases d.scene.globals.request <;> rfl

theorem onMessage_replies (m : Delivery) (d : Dispatcher σ) :
    (d.onMessage m).replies = (d.heard m).calls.map HostCall.frame ++
      [match (d.heard m).result with
        | .ok v => .messageResult m.id v
        | .error e => .error m.id e.why] := by
  rw [← answerMessage_outcome]
  unfold onMessage callFrames
  rcases d.answerMessage m with ⟨⟨calls, result⟩, next⟩
  cases result <;> rfl

/-- A message handler that fails is answered; only a fatal failure ends the session. -/
theorem onMessage_verdict (m : Delivery) (d : Dispatcher σ) :
    (d.onMessage m).verdict = match (d.heard m).result with
      | .error (.fatal why) => .failure (.fatal why)
      | _ => .proceed := by
  rw [← answerMessage_outcome]
  unfold onMessage
  rcases d.answerMessage m with ⟨⟨calls, result⟩, next⟩
  cases result with
  | ok v => rfl
  | error e => cases e <;> rfl

theorem onLoad_replies (id specifier : Option Value) (d : Dispatcher σ) :
    (∃ name modules, (d.onLoad id specifier).replies = [.loaded id name modules]) ∨
      ∃ name why, (d.onLoad id specifier).replies = [.loadError id name why] := by
  unfold onLoad
  split
  · split
    · exact Or.inr ⟨_, _, rfl⟩
    · dsimp only
      split
      · exact Or.inl ⟨_, _, rfl⟩
      · exact Or.inr ⟨_, _, rfl⟩
  · exact Or.inr ⟨_, _, rfl⟩

theorem onLoad_verdict (id specifier : Option Value) (d : Dispatcher σ) :
    (d.onLoad id specifier).verdict = .proceed := by
  unfold onLoad
  split
  · split
    · rfl
    · dsimp only
      split <;> rfl
  · rfl

/-- Factors are answered first, then come the calls of the handler that hears of them. -/
theorem onFactors_replies (id values value : Option Value) (d : Dispatcher σ) :
    (d.onFactors id values value).replies =
      .factorsUpdated id (d.scene.state.extend (contributed values value)).factors ::
        (d.toldFactors id values value).calls.map HostCall.frame := by
  unfold onFactors toldFactors factorHandler?
  dsimp only
  cases hc : contributed values value with
  | nil => cases d.exports.factors.or d.scene.globals.factors <;> rfl
  | cons t ts => cases d.exports.factors.or d.scene.globals.factors <;> rfl

theorem onFactors_verdict (id values value : Option Value) (d : Dispatcher σ) :
    (d.onFactors id values value).verdict = match (d.toldFactors id values value).result with
      | .ok _ => .proceed
      | .error f => .failure f := by
  unfold onFactors toldFactors factorHandler?
  dsimp only
  cases hc : contributed values value with
  | nil => cases d.exports.factors.or d.scene.globals.factors <;> rfl
  | cons t ts =>
    cases d.exports.factors.or d.scene.globals.factors with
    | none => rfl
    | some h => exact notify_verdict h _ _

theorem onReply_replies (r : HostReply) (d : Dispatcher σ) :
    (d.onReply r).replies = (d.toldReply r).calls.map HostCall.frame := by
  unfold onReply toldReply replyHandler?
  dsimp only
  cases d.exports.reply.or d.scene.globals.reply <;> rfl

theorem onReply_verdict (r : HostReply) (d : Dispatcher σ) :
    (d.onReply r).verdict = match (d.toldReply r).result with
      | .ok _ => .proceed
      | .error f => .failure f := by
  unfold onReply toldReply replyHandler?
  dsimp only
  cases d.exports.reply.or d.scene.globals.reply with
  | none => rfl
  | some h => exact notify_verdict h _ _

theorem onArguments_replies (id args : Option Value) (d : Dispatcher σ) :
    (∃ list, (d.onArguments id args).replies = [.argumentsUpdated id list]) ∨
      ∃ why, (d.onArguments id args).replies = [.error id why] := by
  unfold onArguments
  cases args.bind Value.asStrings? with
  | some list => exact Or.inl ⟨_, rfl⟩
  | none => exact Or.inr ⟨_, rfl⟩

theorem onArguments_verdict (id args : Option Value) (d : Dispatcher σ) :
    (d.onArguments id args).verdict = .proceed := by
  unfold onArguments
  cases args.bind Value.asStrings? <;> rfl

theorem onPing_replies (now : UInt64) (seq : Option Value) (d : Dispatcher σ) :
    (d.onPing now seq).replies = .pong (seq.getD .null) now ::
      if d.calls.greeted then [] else [(Ledger.greeting seq now).frame] := by
  unfold onPing Ledger.greet?
  cases d.calls.greeted <;> rfl

/-- Every dispatcher answers a frame in the way of its kind. -/
theorem answered_dispatch (now : UInt64) (f : Frame) (d : Dispatcher σ) :
    Answered d.calls.greeted now (d.invoked f) (d.dispatch now f).replies f := by
  cases f with
  | ping seq => exact d.onPing_replies now seq
  | message id payload => exact d.onMessage_replies ⟨.host, id, payload⟩
  | externalMessage id payload => exact d.onMessage_replies ⟨.external, id, payload⟩
  | load id specifier => exact d.onLoad_replies id specifier
  | factors id values value => exact ⟨_, d.onFactors_replies id values value⟩
  | arguments id args => exact d.onArguments_replies id args
  | hostResult id result => exact d.onReply_replies (.result id result)
  | hostError id why => exact d.onReply_replies (.error id _)
  | shutdown reason => exact ⟨_, rfl⟩
  | _ => exact ⟨_, rfl⟩

/-- The kinds of frames that answer a frame of the given kind. -/
def answerKinds : Frame.Kind → List Frame.Kind
  | .ping => [.pong, .hostCall]
  | .message | .externalMessage => [.hostCall, .messageResult, .error]
  | .load => [.loaded, .loadError]
  | .factors => [.factorsUpdated, .hostCall]
  | .arguments => [.argumentsUpdated, .error]
  | .hostResult | .hostError => [.hostCall]
  | .shutdown => [.shutdownAck]
  | _ => [.unknown]

/-- The frame `g` is of a kind that answers `f`, and if it refers to a request then to `f`. -/
structure Answers (f g : Frame) : Prop where
  kind : g.kind ∈ answerKinds f.kind
  request : ∀ id, g.requestId? = some id → f.requestId? = some id

theorem answers_of_mem_calls {calls : List HostCall} {f g : Frame}
    (hf : .hostCall ∈ answerKinds f.kind) (hg : g ∈ calls.map HostCall.frame) : Answers f g := by
  obtain ⟨c, -, rfl⟩ := List.mem_map.mp hg
  exact ⟨hf, nofun⟩

/-- A frame is answered by frames of few kinds, which refer to no other request. -/
theorem answers_of_mem_replies {now : UInt64} {f g : Frame} {d : Dispatcher σ}
    (hg : g ∈ (d.dispatch now f).replies) : Answers f g := by
  have h := d.answered_dispatch now f
  cases f with
  | ping seq =>
    rw [h] at hg
    rcases List.mem_cons.mp hg with rfl | hg
    · exact ⟨by simp [Frame.kind, answerKinds], nofun⟩
    · split at hg
      · cases hg
      · exact answers_of_mem_calls (by simp [Frame.kind, answerKinds])
          (List.mem_map.mpr ⟨_, List.mem_singleton_self _, (List.mem_singleton.mp hg).symm⟩)
  | message id payload | externalMessage id payload =>
    rw [h, List.mem_append] at hg
    rcases hg with hg | hg
    · exact answers_of_mem_calls (by simp [Frame.kind, answerKinds]) hg
    · rw [List.mem_singleton.mp hg]
      split <;> exact ⟨by simp [Frame.kind, answerKinds], fun _ hid => hid⟩
  | load id specifier =>
    rcases h with ⟨name, modules, h⟩ | ⟨name, why, h⟩ <;>
    · rw [h] at hg
      rw [List.mem_singleton.mp hg]
      exact ⟨by simp [Frame.kind, answerKinds], fun _ hid => hid⟩
  | arguments id args =>
    rcases h with ⟨list, h⟩ | ⟨why, h⟩ <;>
    · rw [h] at hg
      rw [List.mem_singleton.mp hg]
      exact ⟨by simp [Frame.kind, answerKinds], fun _ hid => hid⟩
  | factors id values value =>
    obtain ⟨list, h⟩ := h
    rw [h] at hg
    rcases List.mem_cons.mp hg with rfl | hg
    · exact ⟨by simp [Frame.kind, answerKinds], fun _ hid => hid⟩
    · exact answers_of_mem_calls (by simp [Frame.kind, answerKinds]) hg
  | hostResult id result | hostError id why =>
    rw [h] at hg
    exact answers_of_mem_calls (by simp [Frame.kind, answerKinds]) hg
  | _ =>
    obtain ⟨given, h⟩ := h
    rw [h] at hg
    rw [List.mem_singleton.mp hg]
    exact ⟨by simp [Frame.kind, answerKinds], nofun⟩

/-! ## Verdicts -/

/-- What becomes of a session after a frame of this kind of which a handler made the result. -/
def judged (k : Frame.Kind) : Except HandlerFault Value → Verdict
  | .ok _ => if k = .shutdown then .stop else .proceed
  | .error (.fatal why) => .failure (.fatal why)
  | .error (.failed why) =>
    if k = .message ∨ k = .externalMessage then .proceed else .failure (.failed why)

/-- Only a shutdown stops a session; the failure of a handler of messages is answered, and is told
again only if it is fatal. -/
theorem dispatch_verdict (now : UInt64) (f : Frame) (d : Dispatcher σ) :
    (d.dispatch now f).verdict = judged f.kind (d.invoked f).result := by
  cases f with
  | message id payload | externalMessage id payload =>
    refine (d.onMessage_verdict _).trans ?_
    cases h : (d.heard _).result with
    | ok v => simp [invoked, h, judged, Frame.kind]
    | error e => cases e <;> simp [invoked, h, judged, Frame.kind]
  | factors id values value =>
    refine (d.onFactors_verdict id values value).trans ?_
    cases h : (d.toldFactors id values value).result with
    | ok v => simp [invoked, h, judged, Frame.kind]
    | error e => cases e <;> simp [invoked, h, judged, Frame.kind]
  | hostResult id result | hostError id why =>
    refine (d.onReply_verdict _).trans ?_
    cases h : (d.toldReply _).result with
    | ok v => simp [invoked, h, judged, Frame.kind]
    | error e => cases e <;> simp [invoked, h, judged, Frame.kind]
  | load id specifier => exact d.onLoad_verdict id specifier
  | arguments id args => exact d.onArguments_verdict id args
  | _ => rfl

/-- Only a shutdown stops a session. -/
theorem verdict_stop_iff (now : UInt64) (f : Frame) (d : Dispatcher σ) :
    (d.dispatch now f).verdict = .stop ↔ f.kind = .shutdown := by
  rw [dispatch_verdict]
  constructor
  · intro h
    cases hr : (d.invoked f).result with
    | ok v =>
      rw [hr, judged] at h
      split at h
      · assumption
      · cases h
    | error e =>
      rw [hr] at h
      cases e with
      | fatal why => cases h
      | failed why =>
        rw [judged] at h
        split at h <;> cases h
  · intro h
    have hr : (d.invoked f).result = .ok .null := by
      cases f <;> first | rfl | cases h
    rw [hr, judged, if_pos h]

theorem eq_shutdown {f : Frame} (h : f.kind = .shutdown) : ∃ reason, f = .shutdown reason := by
  cases f <;> first | exact ⟨_, rfl⟩ | cases h

/-- Only a shutdown is acknowledged. -/
theorem kind_ne_shutdownAck {now : UInt64} {f g : Frame} {d : Dispatcher σ}
    (hf : f.kind ≠ .shutdown) (hg : g ∈ (d.dispatch now f).replies) : g.kind ≠ .shutdownAck := by
  have h := (answers_of_mem_replies hg).kind
  intro hr
  rw [hr] at h
  cases hk : f.kind <;> rw [hk] at h hf <;> simp [answerKinds] at h hf

/-- A handler that fails was reached by one of five kinds of frames. -/
theorem kind_of_invoked_error {f : Frame} {d : Dispatcher σ} {e : HandlerFault}
    (h : (d.invoked f).result = .error e) :
    f.kind ∈ [.message, .externalMessage] ∨ f.kind ∈ [.factors, .hostResult, .hostError] := by
  cases f with
  | message | externalMessage | factors | hostResult | hostError => simp [Frame.kind]
  | _ => cases h

/-! ## Pings -/

theorem issue_greeted (id : String) (l : Ledger) : (l.issue id).greeted = l.greeted := by
  unfold Ledger.issue
  split <;> rfl

theorem issueAll_greeted (calls : List HostCall) (l : Ledger) :
    (l.issueAll calls).greeted = l.greeted := by
  unfold Ledger.issueAll
  induction calls generalizing l with
  | nil => rfl
  | cons c rest ih => rw [List.foldl_cons, ih, issue_greeted]

theorem greet_greeted (seq : Option Value) (now : UInt64) (l : Ledger) :
    (l.greet seq now).greeted = true := by
  unfold Ledger.greet Ledger.greet?
  cases h : l.greeted with
  | true => exact h
  | false => exact issue_greeted _ _

/-- The dispatcher `next` has the handlers of `d`, and it greeted the host if and only if `d` did. -/
structure Kept (d next : Dispatcher σ) : Prop where
  loader : next.loader = d.loader
  exports : next.exports = d.exports
  globals : next.scene.globals = d.scene.globals
  greeted : next.calls.greeted = d.calls.greeted

theorem Kept.refl (d : Dispatcher σ) : Kept d d := ⟨rfl, rfl, rfl, rfl⟩

theorem invoke_kept (h : Handler σ ρ α) (request : ρ) (d : Dispatcher σ) :
    Kept d (d.invoke h request).2 :=
  ⟨rfl, rfl, rfl, issueAll_greeted _ _⟩

theorem notify_kept (h : Handler σ ρ Unit) (request : ρ) (d : Dispatcher σ) :
    Kept d (d.notify h request).next :=
  d.invoke_kept h request

theorem onMessage_next (m : Delivery) (d : Dispatcher σ) :
    (d.onMessage m).next = (d.answerMessage m).2 := by
  unfold onMessage
  rcases d.answerMessage m with ⟨⟨calls, result⟩, next⟩
  cases result <;> rfl

theorem onMessage_kept (m : Delivery) (d : Dispatcher σ) : Kept d (d.onMessage m).next := by
  have ha : Kept d (d.answerMessage m).2 := by
    unfold answerMessage
    split
    · exact d.invoke_kept _ _
    · split
      · exact d.invoke_kept _ _
      · exact .refl d
  rw [onMessage_next]
  exact ha

theorem onFactors_kept (id values value : Option Value) (d : Dispatcher σ) :
    Kept d (d.onFactors id values value).next := by
  unfold onFactors
  dsimp only
  split
  · split
    · exact ⟨rfl, rfl, rfl, rfl⟩
    · obtain ⟨hl, he, hg, hc⟩ := notify_kept _ _ _
      exact ⟨hl, he, hg, hc⟩
  · exact ⟨rfl, rfl, rfl, rfl⟩

theorem onArguments_kept (id args : Option Value) (d : Dispatcher σ) :
    Kept d (d.onArguments id args).next := by
  unfold onArguments
  split <;> exact ⟨rfl, rfl, rfl, rfl⟩

theorem onReply_kept (r : HostReply) (d : Dispatcher σ) : Kept d (d.onReply r).next := by
  unfold onReply
  dsimp only
  split
  · obtain ⟨hl, he, hg, hc⟩ := notify_kept _ _ _
    exact ⟨hl, he, hg, hc⟩
  · exact ⟨rfl, rfl, rfl, rfl⟩

/-- A request to import changes nothing but the scene. -/
theorem onLoad_next (id specifier : Option Value) (d : Dispatcher σ) :
    (d.onLoad id specifier).next = d ∨ ∃ name,
      (d.onLoad id specifier).next = { d with scene := (d.loader.loadLive name d.scene).2 } := by
  unfold onLoad
  split
  · split
    · exact Or.inl rfl
    · rename_i text _
      refine Or.inr ⟨text, ?_⟩
      dsimp only
      split <;> rfl
  · exact Or.inl rfl

/-- A session keeps its loader. -/
theorem dispatch_loader (now : UInt64) (f : Frame) (d : Dispatcher σ) :
    (d.dispatch now f).next.loader = d.loader := by
  cases f with
  | message id payload | externalMessage id payload => exact (d.onMessage_kept _).loader
  | load id specifier =>
    rcases d.onLoad_next id specifier with h | ⟨name, h⟩ <;> exact congrArg (·.loader) h
  | factors id values value => exact (d.onFactors_kept id values value).loader
  | arguments id args => exact (d.onArguments_kept id args).loader
  | hostResult id result | hostError id why => exact (d.onReply_kept _).loader
  | _ => rfl

/-- Only a ping greets the host. -/
theorem dispatch_greeted (now : UInt64) (f : Frame) (d : Dispatcher σ) :
    (d.dispatch now f).next.calls.greeted = (f.isPing || d.calls.greeted) := by
  cases f with
  | ping seq => exact greet_greeted seq now d.calls
  | message id payload | externalMessage id payload => exact (d.onMessage_kept _).greeted
  | load id specifier =>
    rcases d.onLoad_next id specifier with h | ⟨name, h⟩ <;> exact congrArg (·.calls.greeted) h
  | factors id values value => exact (d.onFactors_kept id values value).greeted
  | arguments id args => exact (d.onArguments_kept id args).greeted
  | hostResult id result | hostError id why => exact (d.onReply_kept _).greeted
  | _ => rfl

theorem after_greeted (history : List (UInt64 × Frame)) (d : Dispatcher σ) :
    (d.after history).calls.greeted = ((history.any fun m => m.2.isPing) || d.calls.greeted) := by
  induction history generalizing d with
  | nil => rfl
  | cons m rest ih =>
    have h := ih (d.dispatch m.1 m.2).next
    rw [dispatch_greeted, ← Bool.or_assoc, Bool.or_comm _ m.2.isPing] at h
    exact h

/-- A session begins when its target was found, and all modules of its seed were loaded after it. -/
theorem of_bootstrap {seed : Seed} {l : Loader σ} {memory : σ} {d : Dispatcher σ}
    (h : (bootstrap seed l memory).1 = .ok d) : ∃ state target,
      SessionState.ofSeed? seed = some state ∧ (l.search state.target memory).found = .ok target ∧
      let first := ofTarget l state
        ⟨(l.search state.target memory).attempts, (l.search state.target memory).memory⟩ target
      (l.preload seed.modules first.scene).1 = .ok () ∧
        d = { first with scene := (l.preload seed.modules first.scene).2 } := by
  unfold bootstrap at h
  split at h
  · cases h
  · rename_i state hstate
    dsimp only at h
    split at h
    · cases h
    · rename_i target htarget
      refine ⟨state, target, hstate, htarget, ?_⟩
      split at h <;> rename_i heq
      · cases h
      · cases h
        exact ⟨heq, rfl⟩

/-- A session begins without having greeted the host. -/
theorem bootstrap_greeted {seed : Seed} {l : Loader σ} {memory : σ} {d : Dispatcher σ}
    (h : (bootstrap seed l memory).1 = .ok d) : d.calls.greeted = false := by
  obtain ⟨state, target, -, -, -, rfl⟩ := of_bootstrap h
  rfl

/-! ## Accounts -/

/-- **Accounts of replies**: whatever frames a session took since it began, one more frame leaves the
replies to those as they are and is answered in the way of its kind, the first ping with a call besides;
a reply has the id of its request; and the session stops, fails or goes on as the handler has it that
the frame reached. -/
theorem dispatch_accounts (seed : Seed) (l : Loader σ) (memory : σ) {start : Dispatcher σ}
    (h : (bootstrap seed l memory).1 = .ok start) (history : List (UInt64 × Frame)) (now : UInt64)
    (f : Frame) :
    let d := start.after history
    let r := d.dispatch now f
    start.outbox (history ++ [(now, f)]) = start.outbox history ++ r.replies ∧
    Answered (history.any fun m => m.2.isPing) now (d.invoked f) r.replies f ∧
    (∀ g ∈ r.replies, ∀ id, g.requestId? = some id → f.requestId? = some id) ∧
    (r.verdict = .stop ↔ f.kind = .shutdown) ∧
    (∀ why, r.verdict = .failure (.failed why) ↔
      f.kind ∈ [.factors, .hostResult, .hostError] ∧
        (d.invoked f).result = .error (.failed why)) ∧
    (∀ why, r.verdict = .failure (.fatal why) ↔ (d.invoked f).result = .error (.fatal why)) ∧
    (r.verdict = .proceed ↔ f.kind ≠ .shutdown ∧ ∀ e, (d.invoked f).result = .error e →
      f.kind ∈ [.message, .externalMessage] ∧ ∃ why, e = .failed why) := by
  intro d r
  have hping : d.calls.greeted = history.any fun m => m.2.isPing := by
    rw [after_greeted, bootstrap_greeted h, Bool.or_false]
  have ha : Answered d.calls.greeted now (d.invoked f) r.replies f := d.answered_dispatch now f
  rw [hping] at ha
  refine ⟨start.outbox_concat history now f, ha,
    fun g hg => (answers_of_mem_replies hg).request, ?_⟩
  have hv : r.verdict = judged f.kind (d.invoked f).result := d.dispatch_verdict now f
  have hk := @kind_of_invoked_error _ f d
  rw [hv]
  cases hr : (d.invoked f).result with
  | ok v => by_cases hs : f.kind = .shutdown <;> simp [judged, hs]
  | error e =>
    have hk := hk hr
    have hs : f.kind ≠ .shutdown := by
      rintro hs
      rw [hs] at hk
      exact absurd hk (by decide)
    cases e with
    | fatal why => simp [judged, hs]
    | failed why =>
      rcases hk with hk | hk
      · have hm : f.kind = .message ∨ f.kind = .externalMessage := by simpa using hk
        have hn : f.kind ∉ [.factors, .hostResult, .hostError] := by
          rcases hm with hm | hm <;> rw [hm] <;> decide
        simp [judged, hs, hm, hn]
      · have hm : ¬(f.kind = .message ∨ f.kind = .externalMessage) := by
          rintro (hm | hm) <;> rw [hm] at hk <;> exact absurd hk (by decide)
        have hn : f.kind ∉ [.message, .externalMessage] := by simpa using hm
        simp [judged, hs, hm, hn, hk]

/-- A target without handlers answers its first ping with a call, its second without one, and a
message with `null`. -/
theorem dispatch_accounts_pings :
    let target : Loader Unit := ⟨.ofFind fun _ => .ok {}, []⟩
    let start := ofTarget target ⟨"a", [], [], []⟩ ⟨["a"], ()⟩ {}
    (bootstrap ⟨some "a", [], [], []⟩ target ()).1 = .ok start ∧
    start.outbox [(7, .ping none), (8, .ping none)] =
      [.pong .null 7, (Ledger.greeting none 7).frame, .pong .null 8] := by
  intro target start
  have h : (bootstrap ⟨some "a", [], [], []⟩ target ()).1 = .ok start := rfl
  refine ⟨h, ?_⟩
  have h₁ := dispatch_accounts ⟨some "a", [], [], []⟩ target () h [] 7 (.ping none)
  have h₂ := dispatch_accounts ⟨some "a", [], [], []⟩ target () h [(7, .ping none)] 8 (.ping none)
  have r₁ : (dispatch 7 (.ping none) start).replies =
      [.pong .null 7, (Ledger.greeting none 7).frame] := h₁.2.1
  have r₂ : (dispatch 8 (.ping none) (start.after [(7, .ping none)])).replies =
      [.pong .null 8] := h₂.2.1
  have e₁ : start.outbox [(7, .ping none)] = [.pong .null 7, (Ledger.greeting none 7).frame] := by
    rw [← r₁]
    exact h₁.1
  have e₂ := h₂.1
  rw [e₁, r₂] at e₂
  exact e₂

end Dispatcher

end ScriptLink
