import ScriptLink.Proofs.Module.Origin
import ScriptLink.Proofs.Session.Replies

/-!
# ScriptLink.Proofs.Session.Origin — where the handlers of a session come from

* `Dispatcher.Carries P R Q`: the modules that a session can import have `P`, what its target exports has
  `R`, and its global scope has `Q`. If `R` holds of the exports of a module with `P`, and if installing it
  keeps `Q`, a session begins so (`carries_bootstrap`) and stays so (`carries_dispatch`).
* `Dispatcher.From P` is the case where all handlers are those of modules with `P`; the handlers that a
  frame reaches are then among them (`From.message` and the like).
-/

namespace ScriptLink

namespace Dispatcher

/-- What holds of the modules, of the exports of the target and of the global scope. -/
structure Carries (P : ScriptModule σ → Prop) (R : Exports σ → Prop) (Q : Globals σ → Prop)
    (d : Dispatcher σ) : Prop where
  loader : d.loader.Provides P
  exports : R d.exports
  globals : Q d.scene.globals

section

variable {P : ScriptModule σ → Prop} {R : Exports σ → Prop} {Q : Globals σ → Prop}

theorem Carries.of_kept {d next : Dispatcher σ} (h : d.Carries P R Q) (hk : Kept d next) :
    next.Carries P R Q where
  loader := hk.loader ▸ h.loader
  exports := hk.exports ▸ h.exports
  globals := hk.globals ▸ h.globals

variable (hQ : ∀ {m g}, P m → Q g → Q (m.installs.above g))
include hQ

theorem carries_bootstrap (hR : ∀ {m : ScriptModule σ}, P m → R m.exports) (hempty : Q .empty)
    {seed : Seed} {l : Loader σ} (hl : l.Provides P) {memory : σ} {d : Dispatcher σ}
    (h : (bootstrap seed l memory).1 = .ok d) : d.Carries P R Q := by
  obtain ⟨state, target, -, htarget, -, rfl⟩ := of_bootstrap h
  have ht : P target := Loader.provided_search hl htarget
  exact ⟨hl, hR ht, Loader.globals_preload hl hQ seed.modules (hQ ht hempty)⟩

theorem carries_dispatch {d : Dispatcher σ} (h : d.Carries P R Q) (now : UInt64) (f : Frame) :
    (d.dispatch now f).next.Carries P R Q := by
  cases f with
  | message id payload | externalMessage id payload => exact h.of_kept (d.onMessage_kept _)
  | load id specifier =>
    have hn : (d.onLoad id specifier).next.Carries P R Q := by
      rcases d.onLoad_next id specifier with hn | ⟨name, hn⟩ <;> rw [hn]
      · exact h
      · exact ⟨h.loader, h.exports, Loader.globals_loadLive h.loader hQ name h.globals⟩
    exact hn
  | factors id values value => exact h.of_kept (d.onFactors_kept id values value)
  | arguments id args => exact h.of_kept (d.onArguments_kept id args)
  | hostResult id result | hostError id why => exact h.of_kept (d.onReply_kept _)
  | _ => exact ⟨h.loader, h.exports, h.globals⟩

end

/-! ## Handlers of modules -/

/-- All handlers of a session are those of modules with the property `P`. -/
def From (P : ScriptModule σ → Prop) (d : Dispatcher σ) : Prop :=
  d.Carries P (fun e => ∃ m, P m ∧ m.exports = e) (Globals.From P)

section

variable {P : ScriptModule σ → Prop} {d : Dispatcher σ}

theorem from_bootstrap {seed : Seed} {l : Loader σ} (hl : l.Provides P) {memory : σ}
    (h : (bootstrap seed l memory).1 = .ok d) : d.From P :=
  carries_bootstrap Globals.from_above (fun hm => ⟨_, hm, rfl⟩) Globals.from_empty hl h

theorem From.dispatch (h : d.From P) (now : UInt64) (f : Frame) : (d.dispatch now f).next.From P :=
  carries_dispatch Globals.from_above h now f

theorem From.message (h : d.From P) : ∀ g ∈ d.messageHandler?,
    ∃ m, P m ∧ (g ∈ m.exports.message ∨ g ∈ m.installs.message) := by
  obtain ⟨m, hm, he⟩ := h.exports
  refine forall_mem_or (fun g hg => ⟨m, hm, Or.inl (he ▸ hg)⟩) (fun g hg => ?_)
  obtain ⟨n, hn, hi⟩ := h.globals.message g hg
  exact ⟨n, hn, Or.inr hi⟩

theorem From.reply (h : d.From P) : ∀ g ∈ d.replyHandler?,
    ∃ m, P m ∧ (g ∈ m.exports.reply ∨ g ∈ m.installs.reply) := by
  obtain ⟨m, hm, he⟩ := h.exports
  refine forall_mem_or (fun g hg => ⟨m, hm, Or.inl (he ▸ hg)⟩) (fun g hg => ?_)
  obtain ⟨n, hn, hi⟩ := h.globals.reply g hg
  exact ⟨n, hn, Or.inr hi⟩

theorem From.factors (h : d.From P) : ∀ g ∈ d.factorHandler?,
    ∃ m, P m ∧ (g ∈ m.exports.factors ∨ g ∈ m.installs.factors) := by
  obtain ⟨m, hm, he⟩ := h.exports
  refine forall_mem_or (fun g hg => ⟨m, hm, Or.inl (he ▸ hg)⟩) (fun g hg => ?_)
  obtain ⟨n, hn, hi⟩ := h.globals.factors g hg
  exact ⟨n, hn, Or.inr hi⟩

end

end Dispatcher

end ScriptLink
