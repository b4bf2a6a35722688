import ScriptLink.Proofs.Module.Careful
import ScriptLink.Proofs.Session.Origin

/-!
# ScriptLink.Proofs.Session.Careful — sessions whose replies reach the host

* `Dispatcher.Careful`: all handlers of a session are careful. It holds from the beginning
  (`careful_bootstrap`) and no frame changes it (`careful_dispatch`).
* `kind_decode_of_mem_replies`: the replies of such a session to what was decoded are decoded as what they
  are if they are signs of life or calls.
-/

namespace ScriptLink

namespace Dispatcher

/-- Everything in a session that may run is careful. -/
structure Careful (d : Dispatcher σ) : Prop where
  loader : d.loader.Careful
  exports : d.exports.Careful
  globals : d.scene.globals.Careful

theorem careful_bootstrap {seed : Seed} {l : Loader σ} (hl : l.Careful) {memory : σ}
    {d : Dispatcher σ} (h : (bootstrap seed l memory).1 = .ok d) : d.Careful := by
  obtain ⟨hloader, hexports, hglobals⟩ := carries_bootstrap (R := Exports.Careful)
    (fun hm => Globals.careful_above (ScriptModule.Careful.installs hm)) ScriptModule.Careful.exports
    Globals.careful_empty hl h
  exact ⟨hloader, hexports, hglobals⟩

theorem careful_dispatch {d : Dispatcher σ} (h : d.Careful) (now : UInt64) (f : Frame) :
    (d.dispatch now f).next.Careful := by
  obtain ⟨hloader, hexports, hglobals⟩ := carries_dispatch
    (fun hm => Globals.careful_above (ScriptModule.Careful.installs hm))
    ⟨h.loader, h.exports, h.globals⟩ now f
  exact ⟨hloader, hexports, hglobals⟩

/-! ## Calls -/

theorem portable_of_mem_told {h : Option (Handler σ ρ Unit)}
    (hc : ∀ g ∈ h, Handler.Careful (fun _ => True) g) {request : ρ} {state : SessionState}
    {memory : σ} : ∀ c ∈ (told h request state memory).calls, c.payload.Portable := by
  cases h with
  | none => exact nofun
  | some g => exact hc g rfl request state memory trivial

theorem portable_of_mem_heard {d : Dispatcher σ} (h : d.Careful) {m : Delivery}
    (hm : m.payload.Portable) : ∀ c ∈ (d.heard m).calls, c.payload.Portable := by
  have hor := forall_mem_or h.exports.message h.globals.message
  unfold heard
  split
  · rename_i g hg
    exact hor g hg _ _ _ hm
  · rename_i g _ hg
    exact h.globals.request g hg _ _ _ trivial
  · exact nofun

theorem portable_of_mem_invoked {d : Dispatcher σ} (h : d.Careful) {f : Frame} (hf : f.Portable) :
    ∀ c ∈ (d.invoked f).calls, c.payload.Portable := by
  have hreply := forall_mem_or h.exports.reply h.globals.reply
  have hfactors := forall_mem_or h.exports.factors h.globals.factors
  cases f with
  | message id payload | externalMessage id payload =>
    refine portable_of_mem_heard h ?_
    exact hf ("payload", payload) (List.mem_cons_of_mem _ List.mem_cons_self)
  | factors id values value =>
    unfold invoked toldFactors
    dsimp only
    split
    · exact nofun
    · exact portable_of_mem_told hfactors
  | hostResult id result | hostError id why => exact portable_of_mem_told hreply
  | _ => exact nofun

theorem portable_greeting (seq : Option Value) (now : UInt64) :
    (Ledger.greeting seq now).payload.Portable := by
  refine Value.portable_object ?_
  simp [Value.depth, Value.Exact]

theorem kind_decode_call {c : HostCall} (h : c.payload.Portable) :
    (Frame.decode c.frame.encode).kind = .hostCall :=
  Frame.kind_decode_of_portable Frame.Kind.noConfusion
    (by simp [Frame.Portable, HostCall.frame, Frame.body, h])

/-! ## Replies -/

/-- The lines of the signs of life and of the calls among the replies are decoded as such. -/
theorem kind_decode_of_mem_replies {d : Dispatcher σ} (h : d.Careful) {now : UInt64} {f g : Frame}
    (hf : f.Portable) (hg : g ∈ (d.dispatch now f).replies)
    (hk : g.kind = .pong ∨ g.kind = .hostCall) : (Frame.decode g.encode).kind = g.kind := by
  have ha := d.answered_dispatch now f
  have hkind := (answers_of_mem_replies hg).kind
  have hcalls : ∀ g ∈ (d.invoked f).calls.map HostCall.frame,
      (Frame.decode g.encode).kind = g.kind := by
    intro g hg
    obtain ⟨c, hc, rfl⟩ := List.mem_map.mp hg
    exact kind_decode_call (portable_of_mem_invoked h hf c hc)
  cases f with
  | ping seq =>
    rw [ha] at hg
    rcases List.mem_cons.mp hg with rfl | hg
    · have hs : (seq.getD .null).Portable := Value.portable_getD fun w hw => by
        refine hf ("seq", w) ?_
        rw [Option.mem_def.mp hw]
        exact List.mem_cons_self
      exact Frame.kind_decode_of_portable Frame.Kind.noConfusion
        (by simp [Frame.Portable, Frame.body, hs])
    · split at hg
      · cases hg
      · rw [List.mem_singleton.mp hg]
        exact kind_decode_call (portable_greeting seq now)
  | message id payload | externalMessage id payload =>
    rw [ha, List.mem_append] at hg
    rcases hg with hg | hg
    · exact hcalls g hg
    · rw [List.mem_singleton.mp hg] at hk
      split at hk <;> simp [Frame.kind] at hk
  | factors id values value =>
    obtain ⟨list, ha⟩ := ha
    rw [ha] at hg
    rcases List.mem_cons.mp hg with rfl | hg
    · simp [Frame.kind] at hk
    · exact hcalls g hg
  | hostResult id result | hostError id why =>
    rw [ha] at hg
    exact hcalls g hg
  | _ => rcases hk with hk | hk <;> rw [hk] at hkind <;> simp [answerKinds, Frame.kind] at hkind

/-- A ping is answered once, and nothing else is answered by a sign of life. -/
theorem countP_pong_replies (now : UInt64) (f : Frame) (d : Dispatcher σ) :
    (d.dispatch now f).replies.countP (·.kind == .pong) = if f.kind = .ping then 1 else 0 := by
  cases f with
  | ping seq =>
    have ha : (d.dispatch now (.ping seq)).replies = _ := d.answered_dispatch now (.ping seq)
    rw [ha]
    split <;> rfl
  | _ =>
    rw [if_neg (by simp [Frame.kind]), List.countP_eq_zero]
    intro g hg hp
    have hkind := (answers_of_mem_replies hg).kind
    rw [beq_iff_eq.mp hp] at hkind
    simp [answerKinds, Frame.kind] at hkind

end Dispatcher

end ScriptLink
