import Mathlib.Data.Set.Card
import ScriptLink.Proofs.Session.Replies

/-!
# ScriptLink.Proofs.Session.Pending — which calls wait is read off the conversation

* `Dispatcher.conversation`: the frames that a session took and those that it wrote in answer, in their order.
* `Outstanding t k`: in `t` a call with the id `k` was written, and no reply to `k` was heard after it;
  `outstanding_concat` tells what one more utterance makes of that.
* `mem_pending_dispatch` tells the calls that wait after one frame: a reply is struck out first, and then the
  calls are entered that are written in answer.
* `pending_after`: so the calls that wait are the outstanding ones, in every session.
-/

namespace ScriptLink

/-! ## Conversations -/

namespace Frame

/-- The reply to a call of the script side that a frame brings. -/
def hostReply? : Frame → Option HostReply
  | .hostResult id result => some (.result id result)
  | .hostError id why => some (.error id (Value.plainOr Dispatcher.defaultHostError why))
  | _ => none

/-- The id of the call that a frame makes. -/
def callId? : Frame → Option String
  | .hostCall (.str id) _ => some id
  | _ => none

theorem filterMap_callId?_calls (calls : List HostCall) :
    (calls.map HostCall.frame).filterMap callId? = calls.map HostCall.id := by
  rw [List.filterMap_map, ← List.filterMap_eq_map]
  rfl

end Frame

/-- A frame that passes between a session and its host. -/
inductive Utterance where
  /-- The session took the frame. -/
  | heard (f : Frame)
  /-- The session wrote the frame. -/
  | written (f : Frame)

namespace Utterance

/-- The session makes a call with the id `k`. -/
def Calls (k : String) : Utterance → Prop
  | heard _ => False
  | written f => f.callId? = some k

/-- The session hears a reply whose id is, as plain text, `k`. -/
def Settles (k : String) : Utterance → Prop
  | heard f => ∃ r, f.hostReply? = some r ∧ r.id.plain = k
  | written _ => False

end Utterance

/-- A call with the id `k` was made, and no reply to `k` came after it. -/
def Outstanding (t : List Utterance) (k : String) : Prop :=
  ∃ before call after, t = before ++ call :: after ∧ call.Calls k ∧ ∀ u ∈ after, ¬u.Settles k

theorem not_outstanding_nil (k : String) : ¬Outstanding [] k := by
  rintro ⟨before, call, after, h, -⟩
  exact absurd h (by simp)

/-- What is said last makes a call, or it leaves the outstanding ones to which it is no reply. -/
theorem outstanding_concat (t : List Utterance) (u : Utterance) (k : String) :
    Outstanding (t ++ [u]) k ↔ u.Calls k ∨ Outstanding t k ∧ ¬u.Settles k := by
  constructor
  · rintro ⟨before, call, after, h, hcall, hafter⟩
    rcases List.eq_nil_or_concat after with rfl | ⟨init, last, rfl⟩
    · obtain ⟨-, hlast⟩ := List.append_inj' h rfl
      cases hlast
      exact .inl hcall
    · rw [List.concat_eq_append, ← List.cons_append, ← List.append_assoc] at h
      obtain ⟨rfl, hlast⟩ := List.append_inj' h rfl
      cases hlast
      have hlast : ¬u.Settles k := hafter u (by simp)
      exact .inr ⟨⟨before, call, init, rfl, hcall, fun v hv => hafter v (by simp [hv])⟩, hlast⟩
  · rintro (hcall | ⟨⟨before, call, after, rfl, hcall, hafter⟩, hu⟩)
    · exact ⟨t, u, [], rfl, hcall, nofun⟩
    · refine ⟨before, call, after ++ [u], by simp, hcall, fun v hv => ?_⟩
      rcases List.mem_append.mp hv with hv | hv
      · exact hafter v hv
      · rwa [List.mem_singleton.mp hv]

/-- What is written settles nothing. -/
theorem outstanding_written (t : List Utterance) (fs : List Frame) (k : String) :
    Outstanding (t ++ fs.map .written) k ↔ k ∈ fs.filterMap Frame.callId? ∨ Outstanding t k := by
  induction fs using List.reverseRecOn with
  | nil => simp
  | append_singleton fs f ih =>
    have hf : (Utterance.written f).Calls k ↔ k ∈ [f].filterMap Frame.callId? := by
      simp [Utterance.Calls]
    have hs : ¬(Utterance.written f).Settles k := nofun
    rw [List.map_append, ← List.append_assoc, List.map_singleton, outstanding_concat, ih, hf,
      List.filterMap_append, List.mem_append]
    tauto

/-! ## Ledgers -/

namespace Ledger

theorem mem_issue {k id : String} {l : Ledger} :
    k ∈ (l.issue id).pending ↔ k = id ∨ k ∈ l.pending := by
  unfold issue
  split
  · rename_i h
    refine ⟨.inr, ?_⟩
    rintro (rfl | hk)
    · exact h
    · exact hk
  · simp [or_comm]

theorem mem_issueAll {k : String} {calls : List HostCall} {l : Ledger} :
    k ∈ (l.issueAll calls).pending ↔ k ∈ calls.map HostCall.id ∨ k ∈ l.pending := by
  induction calls generalizing l with
  | nil => simp [issueAll]
  | cons c rest ih =>
    have hrest : l.issueAll (c :: rest) = (l.issue c.id).issueAll rest := rfl
    rw [hrest, ih, mem_issue, List.map_cons, List.mem_cons]
    tauto

theorem mem_settle {k : String} {r : HostReply} {l : Ledger} :
    k ∈ (l.settle r).pending ↔ k ∈ l.pending ∧ r.id.plain ≠ k := by
  rw [settle, l.nodup.mem_erase_iff]
  tauto

theorem knows_iff {r : HostReply} {l : Ledger} : l.knows r = true ↔ r.id.plain ∈ l.pending :=
  List.contains_iff_mem

/-- A reply to no call that waits changes nothing. -/
theorem settle_of_not_mem {r : HostReply} {l : Ledger} (h : r.id.plain ∉ l.pending) :
    l.settle r = l := by
  cases l
  exact Ledger.mk.injEq .. ▸ ⟨rfl, List.erase_of_not_mem h⟩

/-- The ledger without the call to which a frame replies. -/
def struck (f : Frame) (l : Ledger) : Ledger := f.hostReply?.elim l l.settle

theorem mem_struck {k : String} {f : Frame} {l : Ledger} :
    k ∈ (l.struck f).pending ↔ k ∈ l.pending ∧ ¬(Utterance.heard f).Settles k := by
  unfold struck Utterance.Settles
  cases hf : f.hostReply? with
  | none => simp [hf]
  | some r => simp [hf, mem_settle]

theorem mem_greet {k : String} {seq : Option Value} {now : UInt64} {l : Ledger} :
    k ∈ (l.greet seq now).pending ↔
      k ∈ (l.greet? seq now).toList.map HostCall.id ∨ k ∈ l.pending := by
  unfold greet greet?
  cases l.greeted with
  | true => simp
  | false => simp [mem_issue]

end Ledger

/-! ## Sessions -/

namespace Dispatcher

/-- What a session with the dispatcher `d` hears and writes, oldest first: each frame of the history and then
the frames that answer it. -/
def conversation : List (UInt64 × Frame) → Dispatcher σ → List Utterance
  | [], _ => []
  | (now, f) :: rest, d =>
    let r := d.dispatch now f
    .heard f :: r.replies.map .written ++ conversation rest r.next

theorem conversation_concat (history : List (UInt64 × Frame)) (now : UInt64) (f : Frame)
    (d : Dispatcher σ) : d.conversation (history ++ [(now, f)]) =
      d.conversation history ++ [.heard f] ++
        ((d.after history).dispatch now f).replies.map .written := by
  induction history generalizing d with
  | nil => simp [conversation, after]
  | cons m rest ih =>
    obtain ⟨t, g⟩ := m
    have hafter : d.after ((t, g) :: rest) = (d.dispatch t g).next.after rest := rfl
    rw [List.cons_append, conversation, conversation, ih, hafter]
    simp

theorem onMessage_calls (m : Delivery) (d : Dispatcher σ) :
    (d.onMessage m).next.calls = d.calls.issueAll (d.heard m).calls := by
  rw [onMessage_next, ← answerMessage_outcome]
  unfold answerMessage
  cases d.messageHandler? with
  | some h => rfl
  | none => cases d.scene.globals.request <;> rfl

theorem onFactors_calls (id values value : Option Value) (d : Dispatcher σ) :
    (d.onFactors id values value).next.calls =
      d.calls.issueAll (d.toldFactors id values value).calls := by
  unfold onFactors toldFactors factorHandler?
  dsimp only
  cases contributed values value with
  | nil => cases d.exports.factors.or d.scene.globals.factors <;> rfl
  | cons t ts => cases d.exports.factors.or d.scene.globals.factors <;> rfl

/-- A reply is struck out before its handler makes calls. -/
theorem onReply_calls (r : HostReply) (d : Dispatcher σ) :
    (d.onReply r).next.calls = (d.calls.settle r).issueAll (d.toldReply r).calls := by
  unfold onReply toldReply replyHandler?
  dsimp only
  cases d.exports.reply.or d.scene.globals.reply <;> rfl

theorem onLoad_calls (id specifier : Option Value) (d : Dispatcher σ) :
    (d.onLoad id specifier).next.calls = d.calls := by
  rcases d.onLoad_next id specifier with h | ⟨name, h⟩ <;> rw [h]

theorem onArguments_calls (id args : Option Value) (d : Dispatcher σ) :
    (d.onArguments id args).next.calls = d.calls := by
  unfold onArguments
  cases args.bind Value.asStrings? <;> rfl

/-- The calls that a session makes in answer to a frame. -/
def made (now : UInt64) (f : Frame) (d : Dispatcher σ) : List HostCall :=
  match f with
  | .ping seq => (d.calls.greet? seq now).toList
  | f => (d.invoked f).calls

/-- The calls that a session makes are those that it writes. -/
theorem callIds_replies (now : UInt64) (f : Frame) (d : Dispatcher σ) :
    (d.dispatch now f).replies.filterMap Frame.callId? = (d.made now f).map HostCall.id := by
  have h := d.answered_dispatch now f
  cases f with
  | ping seq =>
    rw [h]
    unfold made Ledger.greet?
    cases d.calls.greeted <;> rfl
  | message id payload | externalMessage id payload =>
    rw [h, List.filterMap_append, Frame.filterMap_callId?_calls]
    unfold made
    cases (d.invoked _).result <;> exact List.append_nil _
  | hostResult id result | hostError id why => rw [h, Frame.filterMap_callId?_calls]; rfl
  | load id specifier => rcases h with ⟨_, _, h⟩ | ⟨_, _, h⟩ <;> rw [h] <;> rfl
  | factors id values value =>
    obtain ⟨list, h⟩ := h
    rw [h, List.filterMap_cons_none rfl, Frame.filterMap_callId?_calls]
    rfl
  | arguments id args => rcases h with ⟨_, h⟩ | ⟨_, h⟩ <;> rw [h] <;> rfl
  | _ => obtain ⟨_, h⟩ := h; rw [h]; rfl

/-- A frame strikes out the call to which it replies, and then the calls are entered that it brings about. -/
theorem mem_calls_dispatch (now : UInt64) (f : Frame) (d : Dispatcher σ) (k : String) :
    k ∈ (d.dispatch now f).next.calls.pending ↔
      k ∈ (d.made now f).map HostCall.id ∨ k ∈ (d.calls.struck f).pending := by
  cases f with
  | ping seq => exact Ledger.mem_greet
  | message id payload | externalMessage id payload =>
    exact (d.onMessage_calls _ ▸ Ledger.mem_issueAll :)
  | hostResult id result | hostError id why => exact (d.onReply_calls _ ▸ Ledger.mem_issueAll :)
  | factors id values value => exact (d.onFactors_calls id values value ▸ Ledger.mem_issueAll :)
  | load id specifier =>
    have h : (d.dispatch now (.load id specifier)).next.calls = d.calls := d.onLoad_calls id specifier
    rw [h]
    exact (or_iff_right List.not_mem_nil).symm
  | arguments id args =>
    have h : (d.dispatch now (.arguments id args)).next.calls = d.calls := d.onArguments_calls id args
    rw [h]
    exact (or_iff_right List.not_mem_nil).symm
  | _ => exact (or_iff_right List.not_mem_nil).symm

/-- A call waits after a frame if it is written in answer, or if it waited and the frame is no reply to it. -/
theorem mem_pending_dispatch (now : UInt64) (f : Frame) (d : Dispatcher σ) (k : String) :
    k ∈ (d.dispatch now f).next.calls.pending ↔
      k ∈ (d.dispatch now f).replies.filterMap Frame.callId? ∨
        k ∈ d.calls.pending ∧ ¬(Utterance.heard f).Settles k := by
  rw [mem_calls_dispatch, callIds_replies, Ledger.mem_struck]

theorem pending_bootstrap {seed : Seed} {l : Loader σ} {memory : σ} {start : Dispatcher σ}
    (h : (bootstrap seed l memory).1 = .ok start) : start.calls.pending = [] := by
  obtain ⟨state, t, -, -, -, rfl⟩ := of_bootstrap h
  rfl

/-- From a dispatcher without a call that waits on, those wait that are outstanding in the conversation. -/
theorem mem_pending_after {start : Dispatcher σ} (h : start.calls.pending = [])
    (history : List (UInt64 × Frame)) (k : String) :
    k ∈ (start.after history).calls.pending ↔ Outstanding (start.conversation history) k := by
  induction history using List.reverseRecOn with
  | nil =>
    have hnil : (start.after []).calls.pending = [] := h
    rw [hnil]
    exact iff_of_false List.not_mem_nil (not_outstanding_nil k)
  | append_singleton history m ih =>
    obtain ⟨now, f⟩ := m
    have hafter : start.after (history ++ [(now, f)]) =
        ((start.after history).dispatch now f).next := List.foldl_concat ..
    have hcalls : ¬(Utterance.heard f).Calls k := id
    rw [hafter, mem_pending_dispatch, ih, conversation_concat, outstanding_written,
      outstanding_concat, or_iff_right hcalls]

/-- **Calls that wait**, whatever frames a session took and whatever calls its handlers made: those are
waiting that are outstanding in the conversation, and there are as many as that; a reply is known just if
its id, as plain text, is then that of an outstanding call, and otherwise it strikes out nothing. A frame
that brings a reply strikes out that call alone, after which the calls wait that the handler of the reply
makes, also if one of them has the same id. -/
theorem pending_after (seed : Seed) (l : Loader σ) (memory : σ) {start : Dispatcher σ}
    (h : (bootstrap seed l memory).1 = .ok start) (history : List (UInt64 × Frame)) :
    let d := start.after history
    let t := start.conversation history
    (∀ k, k ∈ d.calls.pending ↔ Outstanding t k) ∧
    d.calls.pending.length = {k | Outstanding t k}.ncard ∧
    (∀ r : HostReply, d.calls.knows r = true ↔ Outstanding t r.id.plain) ∧
    (∀ r : HostReply, ¬Outstanding t r.id.plain → d.calls.settle r = d.calls) ∧
    ∀ now f r, f.hostReply? = some r → ∀ k, k ∈ (d.dispatch now f).next.calls.pending ↔
      k ∈ (d.toldReply r).calls.map HostCall.id ∨ Outstanding t k ∧ r.id.plain ≠ k := by
  intro d t
  have hmem : ∀ k, k ∈ d.calls.pending ↔ Outstanding t k :=
    mem_pending_after (pending_bootstrap h) history
  refine ⟨hmem, ?_, fun r => ?_, fun r hr => ?_, fun now f r hf k => ?_⟩
  · have hset : {k | Outstanding t k} = ↑d.calls.pending.toFinset := by
      ext k
      rw [List.coe_toFinset]
      exact (hmem k).symm
    rw [hset, Set.ncard_coe_finset, List.toFinset_card_of_nodup d.calls.nodup]
  · rw [Ledger.knows_iff, hmem]
  · exact Ledger.settle_of_not_mem fun hk => hr ((hmem _).mp hk)
  · have hmade : d.made now f = (d.toldReply r).calls := by cases f <;> cases hf <;> rfl
    have hstruck : d.calls.struck f = d.calls.settle r := by rw [Ledger.struck, hf]; rfl
    rw [mem_calls_dispatch, hmade, hstruck, Ledger.mem_settle, hmem]

/-- The handler of replies makes the call `1` anew when there is a result. The number `1` answers it too, and
a second time it answers nothing. -/
theorem pending_after_again :
    let again : Handler Unit HostReply Unit := fun r _ memory =>
      (⟨if r.ok then [⟨"1", .null⟩] else [], .ok ()⟩, memory)
    let l : Loader Unit := ⟨.ofFind fun _ => .ok { exports := { reply := some again } }, []⟩
    let start := ofTarget l ⟨"a", [], [], []⟩ ⟨["a"], ()⟩ { exports := { reply := some again } }
    let one : Value := .num (.int 1)
    let greeting : List (UInt64 × Frame) := [(7, .ping (some (.str "x")))]
    let renewed := greeting ++ [(7, .hostResult (.str "ts-rust-x") .null), (7, .hostResult one .null)]
    let settled := renewed ++ [(7, .hostError one none)]
    (bootstrap ⟨some "a", [], [], []⟩ l ()).1 = .ok start ∧
    Outstanding (start.conversation greeting) "ts-rust-x" ∧
    Outstanding (start.conversation renewed) "1" ∧
    (start.after settled).calls.pending = [] ∧
    (start.after settled).calls.knows (.error one "unknown") = false := by
  intro again l start one greeting renewed settled
  have h : (bootstrap ⟨some "a", [], [], []⟩ l ()).1 = .ok start := rfl
  have hgreeting := (pending_after _ l () h greeting).1 "ts-rust-x"
  have hrenewed := (pending_after _ l () h renewed).1 "1"
  have hknown := (pending_after _ l () h settled).2.2.1 (.error one "unknown")
  have hsettled : (start.after settled).calls.pending = [] := by decide +kernel
  refine ⟨h, hgreeting.mp (by decide +kernel), hrenewed.mp (by decide +kernel), hsettled, ?_⟩
  rw [Bool.eq_false_iff]
  intro hk
  rw [Ledger.knows_iff, hsettled] at hk
  cases hk

end Dispatcher

end ScriptLink
