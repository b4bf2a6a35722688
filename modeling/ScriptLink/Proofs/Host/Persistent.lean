import ScriptLink.Proofs.Frame.External
import ScriptLink.Proofs.Session.Resemblance

/-!
# ScriptLink.Proofs.Host.Persistent — what a driver makes of external input

* `Driver.Forwards` says what the reaction to an event is where no pings are sent: an answer to a call, the
  line of external input that the event brings, or the shutdown once the input is closed.
  `forwards_handle` has it that each event is taken that way.
* `Driver.stopReason?` is the reason that a line gives for a shutdown.
-/

namespace ScriptLink

open ScriptLink.Frame (tells idle)

namespace Frame

/-- The line that the host forwards for a line of external input. -/
def forwarded (line : String) : String := (ofExternal line).text

/-- A line that means nothing to a session is neither a ping nor a shutdown. -/
theorem tells_of_idle {line : String} (h : idle line = true) :
    tells .ping line = false ∧ tells .shutdown line = false := by
  have hne {k : Frame.Kind} (hk : k = .ping ∨ k = .shutdown) : tells k line = false := by
    rw [tells, beq_eq_false_iff_ne]
    rintro rfl
    unfold idle at h
    rcases hk with hk | hk <;> rw [hk] at h <;> cases h
  exact ⟨hne (.inl rfl), hne (.inr rfl)⟩

end Frame

open ScriptLink.Frame (forwarded)

/-- The line of external input that an event brings. -/
def HostEvent.external? : HostEvent → Option String
  | .external line => some line
  | _ => none

namespace Driver

/-- The shutdown that follows the end of external input. -/
def closing : String := (Frame.shutdownFor inputClosedReason).encode

theorem tells_closing : tells .shutdown closing = true := Frame.tells_shutdownFor .shutdown _

theorem idle_closing : idle closing = false := by
  unfold idle closing
  rw [Frame.decode_shutdownFor]
  rfl

/-- The reason of a line that is a shutdown. -/
def stopReason? (line : String) : Option (Option String) :=
  match Frame.decode line with
  | .shutdown reason => some (reason.bind Value.asString?)
  | _ => none

theorem stopReason?_eq_none {line : String} (h : tells .shutdown line = false) :
    stopReason? line = none := by
  unfold tells at h
  unfold stopReason?
  cases hf : Frame.decode line with
  | shutdown reason =>
    rw [hf] at h
    cases h
  | _ => rfl

theorem stopReason?_shutdownFor (reason : String) :
    stopReason? (Frame.shutdownFor reason).encode = some (some reason) := by
  unfold stopReason?
  rw [Frame.decode_shutdownFor]
  rfl

/-- The answer to a call means nothing to a session beyond that call. -/
theorem idle_answer (executor : HostCall.Executor) (id payload : Value) :
    idle (answer executor id payload).encode = true := by
  unfold idle
  rcases (answer executor id payload).kind_decode_encode with hk | hk | hk <;> rw [hk]
  rcases kind_answer executor id payload with hk | hk <;> rw [hk]

/-- Without pings, nothing comes of time. -/
theorem not_ticking {d : Driver} (h : d.mode = .persistent) : ¬d.ticking = true := by
  unfold ticking
  rw [h]
  exact Bool.noConfusion

/-- Once the external input is closed and the session is ready, a shutdown was sent. -/
def Settled (d : Driver) : Prop := d.inputClosed = true → d.ready = true → d.shutdown = true

/-- What a driver makes of an event where no pings are sent. -/
structure Forwards (d : Driver) (e : HostEvent) (r : Reaction) : Prop where
  mode : r.next.mode = d.mode
  inputClosed : r.next.inputClosed = (d.inputClosed || decide (e = .externalClosed))
  settled : d.Settled → r.next.Settled
  /-- A driver knows of every shutdown that it sends. -/
  shutdown : r.next.shutdown = (d.shutdown || r.sends.any fun o => tells .shutdown o.line)
  required : ∀ o ∈ r.sends, o.required = true → r.next.shutdown = false
  sends : (∃ line ∈ e.external?, r.sends.map Outgoing.line = [forwarded line]) ∨
    e.external? = none ∧ ((∀ o ∈ r.sends, idle o.line = true) ∨
      r.sends.map Outgoing.line = [closing] ∧ r.next.inputClosed = true ∧ d.shutdown = false)

theorem forwards_settle {d c : Driver} {e : HostEvent} (he : e.external? = none)
    (hmode : c.mode = d.mode)
    (hinput : c.inputClosed = (d.inputClosed || decide (e = .externalClosed)))
    (hshutdown : c.shutdown = d.shutdown) : Forwards d e c.settle := by
  unfold settle
  split
  · rename_i h
    simp only [Bool.and_eq_true] at h
    obtain ⟨⟨hi, hr⟩, hs⟩ := h
    refine ⟨hmode, hinput, fun _ _ _ => rfl, ?_, ?_, ?_⟩
    · simp [requestShutdown, outgoing, ← closing.eq_1, tells_closing]
    · simp [requestShutdown, outgoing]
    · refine Or.inr ⟨he, Or.inr ⟨rfl, hi, ?_⟩⟩
      rw [← hshutdown]
      simpa using hs
  · rename_i h
    refine ⟨hmode, hinput, fun _ hi hr => ?_, ?_, nofun, Or.inr ⟨he, Or.inl nofun⟩⟩
    · have hi : c.inputClosed = true := hi
      have hr : c.ready = true := hr
      simpa [hi, hr] using h
    · simp [hshutdown]

theorem forwards_forward (line : String) (d : Driver) :
    Forwards d (.external line) (d.forward line) := by
  have htells := Frame.tells_shutdown_ofExternal line
  unfold forward
  dsimp only
  split
  · rename_i h
    rw [h] at htells
    refine ⟨rfl, ?_, fun _ _ _ => rfl, ?_, ?_, Or.inl ⟨line, rfl, rfl⟩⟩
    · simp
    · simp [outgoing, htells]
    · simp [outgoing]
  · rename_i h
    rw [Bool.eq_false_iff.mpr h] at htells
    refine ⟨rfl, ?_, id, ?_, ?_, Or.inl ⟨line, rfl, rfl⟩⟩
    · simp
    · simp [outgoing, htells]
    · simp [outgoing]

theorem forwards_onFrame (line : String) (d : Driver) :
    Forwards d (.frame line) (d.onFrame line) := by
  -- a line that is not a ready frame changes no flag
  have hkeep {r : Reaction} (hm : r.next.mode = d.mode)
      (hr : r.next.ready = d.ready) (hi : r.next.inputClosed = d.inputClosed)
      (hs : r.next.shutdown = d.shutdown)
      (hsends : ∀ o ∈ r.sends, idle o.line = true ∧ tells .shutdown o.line = false ∧
        (o.required = true → d.shutdown = false)) : Forwards d (.frame line) r := by
    refine ⟨hm, ?_, ?_, ?_, ?_, Or.inr ⟨rfl, Or.inl fun o ho => (hsends o ho).1⟩⟩
    · simp [hi]
    · unfold Settled
      rw [hr, hi, hs]
      exact id
    · have hany : (r.sends.any fun o => tells .shutdown o.line) = false :=
        List.any_eq_false.mpr fun o ho => Bool.eq_false_iff.mp (hsends o ho).2.1
      rw [hany, hs, Bool.or_false]
    · rw [hs]
      exact fun o ho => (hsends o ho).2.2
  unfold onFrame
  cases Frame.decode line with
  | ready c => exact forwards_settle rfl rfl (by simp) rfl
  | hostCall id payload =>
    refine hkeep rfl rfl rfl rfl fun o ho => ?_
    rw [List.mem_singleton.mp ho]
    refine ⟨idle_answer _ _ _, tells_answer _ _ _ (.inr rfl), ?_⟩
    simp [outgoing]
  | _ => exact hkeep rfl rfl rfl rfl nofun

/-- Whatever the event is, a driver forwards it. -/
theorem forwards_handle (e : HostEvent) (d : Driver) : Forwards d e (d.handle e) := by
  cases e with
  | frame line => exact forwards_onFrame line d
  | scriptClosed =>
    refine ⟨rfl, ?_, id, ?_, nofun, Or.inr ⟨rfl, Or.inl nofun⟩⟩ <;> simp [handle]
  | external line => exact forwards_forward line d
  | externalClosed => exact forwards_settle rfl rfl (by simp) rfl

end Driver

end ScriptLink
