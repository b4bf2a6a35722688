import ScriptLink.Proofs.Module.Installed
import ScriptLink.Proofs.Session.History

/-!
# ScriptLink.Proofs.Session.Handlers — which handlers a session has

* `Unmoved d next`: the dispatcher `next` has the modules and the handlers of `d`. `dispatch_next`: a frame
  leaves them as they are, or loads a module.
* `Built l target t d`: the handlers of `d` are those that `t` exports, which is the module of the target, and
  those that its modules installed.
* `handlers_after`: so it is in every session whose importer is a function of the specifier, whatever frames it took.
-/

namespace ScriptLink

namespace Dispatcher

/-! ## Frames -/

/-- The dispatcher `next` has the modules and the handlers of `d`. -/
structure Unmoved (d next : Dispatcher σ) : Prop where
  loader : next.loader = d.loader
  exports : next.exports = d.exports
  globals : next.scene.globals = d.scene.globals
  target : next.scene.state.target = d.scene.state.target
  modules : next.scene.state.modules = d.scene.state.modules

theorem Unmoved.of_kept {d next : Dispatcher σ} (h : Kept d next)
    (hstate : next.scene.state = d.scene.state) : Unmoved d next :=
  ⟨h.loader, h.exports, h.globals, by rw [hstate], by rw [hstate]⟩

/-- A frame loads a module, or it leaves all modules and handlers as they are. -/
theorem dispatch_next (now : UInt64) (f : Frame) (d : Dispatcher σ) :
    Unmoved d (d.dispatch now f).next ∨ ∃ name,
      (d.dispatch now f).next = { d with scene := (d.loader.loadLive name d.scene).2 } := by
  cases f with
  | message id payload | externalMessage id payload =>
    exact .inl (.of_kept (d.onMessage_kept _) (d.onMessage_still _).state)
  | hostResult id result | hostError id why =>
    exact .inl (.of_kept (d.onReply_kept _) (d.onReply_still _).state)
  | load id specifier =>
    rcases d.onLoad_next id specifier with h | ⟨name, h⟩
    · have hnext : (d.dispatch now (.load id specifier)).next = d := h
      rw [hnext]
      exact .inl ⟨rfl, rfl, rfl, rfl, rfl⟩
    · exact .inr ⟨name, h⟩
  | factors id values value =>
    have hk := d.onFactors_kept id values value
    have hs : (d.onFactors id values value).next.scene.state =
        d.scene.state.extend (contributed values value) := (d.onFactors_still id values value).state
    exact .inl ⟨hk.loader, hk.exports, hk.globals, (congrArg SessionState.target hs).trans rfl,
      (congrArg SessionState.modules hs).trans rfl⟩
  | arguments id args =>
    have hk := d.onArguments_kept id args
    have hs : (d.onArguments id args).next.scene.state.target = d.scene.state.target ∧
        (d.onArguments id args).next.scene.state.modules = d.scene.state.modules := by
      unfold onArguments
      split <;> exact ⟨rfl, rfl⟩
    exact .inl ⟨hk.loader, hk.exports, hk.globals, hs.1, hs.2⟩
  | _ => exact .inl ⟨rfl, rfl, rfl, rfl, rfl⟩

/-! ## Sessions -/

/-- The handlers of a session are those that the module of its target exports and those that its modules
installed. -/
structure Built (l : Finder σ) (target : String) (t : ScriptModule σ) (d : Dispatcher σ) : Prop where
  loader : d.loader = l.loader
  target : d.scene.state.target = target
  exports : d.exports = t.exports
  installed : l.Installed d.scene

theorem built_bootstrap {seed : Seed} {l : Finder σ} {memory : σ} {start : Dispatcher σ}
    (h : (bootstrap seed l.loader memory).1 = .ok start) : ∃ t,
      l.module? start.scene.state.target = some t ∧ Built l start.scene.state.target t start := by
  obtain ⟨state, t, hs, ht, hload, rfl⟩ := of_bootstrap h
  obtain ⟨target, -, rfl⟩ := Option.map_eq_some_iff.mp hs
  have htarget := (Loader.loaded_preload l.loader hload).target
  have hmodule : l.module? target = some t := l.module?_eq_some.mpr ht
  refine ⟨t, ?_, rfl, rfl, rfl, (Finder.installed_target hmodule rfl).preload seed.modules⟩
  exact (congrArg l.module? htarget).trans hmodule

section

variable {l : Finder σ} {target : String} {t : ScriptModule σ} {d : Dispatcher σ}

theorem Built.dispatch (h : Built l target t d) (now : UInt64) (f : Frame) :
    Built l target t (d.dispatch now f).next := by
  rcases d.dispatch_next now f with hu | ⟨name, hn⟩
  · have hstate : (d.dispatch now f).next.scene.state.installed = d.scene.state.installed := by
      rw [SessionState.installed, hu.target, hu.modules]
      rfl
    exact ⟨hu.loader.trans h.loader, hu.target.trans h.target, hu.exports.trans h.exports,
      h.installed.of_state hu.globals hstate⟩
  · rw [hn]
    have htarget := (d.loader.loaded_loadLive name d.scene).2.target
    refine ⟨h.loader, htarget.trans h.target, h.exports, ?_⟩
    rw [h.loader]
    exact h.installed.loadLive name

theorem Built.after (h : Built l target t d) (frames : List (UInt64 × Frame)) :
    Built l target t (d.after frames) := by
  induction frames generalizing d with
  | nil => exact h
  | cons m rest ih => exact ih (h.dispatch m.1 m.2)

end

/-- What becomes of a notice for a handler that may be missing. -/
def notifyIf (h : Option (Handler σ ρ Unit)) (request : ρ) (d : Dispatcher σ) : Response σ :=
  match h with
  | some h => d.notify h request
  | none => ⟨d, [], .proceed⟩

theorem onReply_eq_notifyIf (r : HostReply) (d : Dispatcher σ) :
    d.onReply r = { d with calls := d.calls.settle r }.notifyIf d.replyHandler? r := by
  unfold onReply notifyIf
  have hhandler : { d with calls := d.calls.settle r }.replyHandler? = d.replyHandler? := rfl
  dsimp only
  rw [hhandler]
  cases d.replyHandler? <;> rfl

/-- Factors are there before their handler hears of them. -/
theorem onFactors_eq_notifyIf {values value : Option Value} (h : contributed values value ≠ [])
    (id : Option Value) (d : Dispatcher σ) :
    let state := d.scene.state.extend (contributed values value)
    let told := { d with scene.state := state }.notifyIf d.factorHandler?
      ⟨id, contributed values value, state.factors⟩
    d.onFactors id values value =
      { told with replies := .factorsUpdated id state.factors :: told.replies } := by
  intro state told
  have hhandler : { d with scene.state := state }.factorHandler? = d.factorHandler? := rfl
  have hadded : ¬(contributed values value).isEmpty = true := by simpa using h
  unfold onFactors
  dsimp only
  rw [hhandler]
  unfold told notifyIf
  cases d.factorHandler? with
  | some g => exact if_neg hadded
  | none => rfl

/-- **Handlers of a session**, whatever frames it took, if the importer is a function of the specifier: each slot
of the global scope holds what the last of the installed modules registered for it, which are the target and after
it the other modules in the order of the state, and nothing if none did. What the target exports stays and goes
before that: it takes the replies of the host, the factors and the messages; a message without a handler goes as a
text to that of requests, and without one has the answer `null`. The ready frame tells just which of these handlers
there are. -/
theorem handlers_after (seed : Seed) (l : Finder σ) (memory : σ) {start : Dispatcher σ}
    (h : (bootstrap seed l.loader memory).1 = .ok start) :
    ∃ t, l.module? start.scene.state.target = some t ∧ ∀ frames : List (UInt64 × Frame),
      let d := start.after frames
      let state := d.scene.state
      let message := l.registered Globals.message state
      let request := l.registered Globals.request state
      let reply := l.registered Globals.reply state
      let factors := l.registered Globals.factors state
      (state.target = start.scene.state.target ∧
        ∀ specifier ∈ state.installed, (l.module? specifier).isSome = true) ∧
      d.scene.globals = ⟨message, request, reply, factors⟩ ∧
      d.exports = t.exports ∧
      (∀ r, d.onReply r =
        { d with calls := d.calls.settle r }.notifyIf (t.exports.reply.or reply) r) ∧
      (∀ id values value, contributed values value ≠ [] →
        let extended := state.extend (contributed values value)
        let told := { d with scene.state := extended }.notifyIf (t.exports.factors.or factors)
          ⟨id, contributed values value, extended.factors⟩
        d.onFactors id values value =
          { told with replies := .factorsUpdated id extended.factors :: told.replies }) ∧
      (∀ m, d.answerMessage m = match t.exports.message.or message, request with
        | some h, _ => d.invoke h m
        | none, some h => d.invoke h m.payload.plain
        | none, none => (Outcome.pure .null, d)) ∧
      d.ready = .ready
        { target := state.target
          exportedHandler := t.exports.message.isSome
          globalHandler := message.isSome
          replyHandler := (t.exports.reply.or reply).isSome
          factorHandler := (t.exports.factors.or factors).isSome
          modules := state.modules
          factors := state.factors
          args := state.args } := by
  obtain ⟨t, ht, hbuilt⟩ := built_bootstrap h
  refine ⟨t, ht, fun frames => ?_⟩
  obtain ⟨-, htarget, hexports, hinstalled⟩ := hbuilt.after frames
  intro d state message request reply factors
  have hglobals : d.scene.globals = ⟨message, request, reply, factors⟩ := by
    have hmessage : d.scene.globals.message = message := hinstalled.slot rfl fun _ _ => rfl
    have hrequest : d.scene.globals.request = request := hinstalled.slot rfl fun _ _ => rfl
    have hreply : d.scene.globals.reply = reply := hinstalled.slot rfl fun _ _ => rfl
    have hfactors : d.scene.globals.factors = factors := hinstalled.slot rfl fun _ _ => rfl
    rw [← hmessage, ← hrequest, ← hreply, ← hfactors]
  have hexports : d.exports = t.exports := hexports
  have hreply : d.replyHandler? = t.exports.reply.or reply := by
    rw [replyHandler?, hexports, hglobals]
  have hfactors : d.factorHandler? = t.exports.factors.or factors := by
    rw [factorHandler?, hexports, hglobals]
  have hmessage : d.messageHandler? = t.exports.message.or message := by
    rw [messageHandler?, hexports, hglobals]
  refine ⟨⟨htarget, hinstalled.found⟩, hglobals, hexports, fun r => ?_,
    fun id values value hadded => ?_, fun m => ?_, ?_⟩
  · rw [← hreply]
    exact d.onReply_eq_notifyIf r
  · rw [← hfactors]
    exact onFactors_eq_notifyIf hadded id d
  · rw [answerMessage, hmessage, hglobals]
    cases t.exports.message.or message with
    | some h => rfl
    | none => cases request <;> rfl
  · rw [ready, capabilities, hreply, hfactors, hexports, hglobals]

/-- Of several modules with a handler of messages the one that was loaded last has it, not the target that
is loaded again, nor a module that is loaded again or cannot be. -/
theorem handlers_after_reloaded :
    let l : Finder Unit := ⟨fun s => if s = "gone" then .error (.notFound s) else
      .ok { installs := { message := some (Handler.ofRequest fun _ => .pure (.str s)) } }, []⟩
    let seed : Seed := ⟨some "t", ["b", "t"], [], []⟩
    let frames : List Frame := ["a", "b", "t", "gone"].map fun s => .load none (some (.str s))
    ∃ start, (bootstrap seed l.loader ()).1 = .ok start ∧
      let d := start.after (frames.map fun f => (0, f))
      d.scene.state.installed = ["t", "b", "a"] ∧
      (d.answerMessage ⟨.host, none, .null⟩).1.result = .ok (.str "a") ∧
      d.capabilities.globalHandler = true := by
  intro l seed frames
  refine ⟨_, rfl, ?_⟩
  obtain ⟨t, ht, hall⟩ := handlers_after seed l () rfl
  obtain ⟨-, -, -, -, -, hmessage, hready⟩ := hall (frames.map fun f => (0, f))
  intro d
  have hinstalled : d.scene.state.installed = ["t", "b", "a"] := by decide +kernel
  have hlast : l.registered Globals.message d.scene.state =
      some (Handler.ofRequest fun _ => .pure (.str "a")) := by
    rw [Finder.registered, hinstalled]
    rfl
  refine ⟨hinstalled, ?_, ?_⟩
  · cases ht
    rw [hmessage, hlast]
    rfl
  · rw [show d.capabilities = _ from Frame.ready.inj hready, hlast]
    rfl

end Dispatcher

end ScriptLink
