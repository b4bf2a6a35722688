import ScriptLink.Module.Builtin
import ScriptLink.Proofs.Frame.Portable
import ScriptLink.Proofs.Module.Origin

/-!
# ScriptLink.Proofs.Module.Careful — modules whose calls reach the host

* `Handler.Careful`: whatever the state and the memory, a handler makes no call of a value that a line
  would not carry. A handler of messages may rely on the payload for it, as `builtin:relay` does.
* `Loader.Careful`: every module that can be imported has careful handlers only.
* `careful_builtin`: the built-in modules are of that kind.
-/

namespace ScriptLink

/-! ## Handlers -/

/-- The calls that a handler makes of a request with `P` are portable. -/
def Handler.Careful (P : ρ → Prop) (h : Handler σ ρ α) : Prop :=
  ∀ request state memory, P request → ∀ c ∈ (h request state memory).1.calls, c.payload.Portable

/-- The payload of a message is portable. -/
def Delivery.Portable (m : Delivery) : Prop := m.payload.Portable

/-- The handlers that a module exports are careful. -/
structure Exports.Careful (e : Exports σ) : Prop where
  message : ∀ h ∈ e.message, Handler.Careful Delivery.Portable h
  reply : ∀ h ∈ e.reply, Handler.Careful (fun _ => True) h
  factors : ∀ h ∈ e.factors, Handler.Careful (fun _ => True) h

/-- The handlers of the global scope are careful. -/
structure Globals.Careful (g : Globals σ) : Prop where
  message : ∀ h ∈ g.message, Handler.Careful Delivery.Portable h
  request : ∀ h ∈ g.request, Handler.Careful (fun _ => True) h
  reply : ∀ h ∈ g.reply, Handler.Careful (fun _ => True) h
  factors : ∀ h ∈ g.factors, Handler.Careful (fun _ => True) h

structure ScriptModule.Careful (m : ScriptModule σ) : Prop where
  exports : m.exports.Careful
  installs : m.installs.Careful

/-- Only careful modules can be imported. -/
def Loader.Careful (l : Loader σ) : Prop := l.Provides ScriptModule.Careful

theorem Exports.careful_none : (⟨none, none, none⟩ : Exports σ).Careful :=
  ⟨forall_mem_none, forall_mem_none, forall_mem_none⟩

theorem Globals.careful_empty : (Globals.empty : Globals σ).Careful :=
  ⟨forall_mem_none, forall_mem_none, forall_mem_none, forall_mem_none⟩

theorem Globals.careful_above {upper lower : Globals σ} (hu : upper.Careful) (hl : lower.Careful) :
    (upper.above lower).Careful where
  message := forall_mem_or hu.message hl.message
  request := forall_mem_or hu.request hl.request
  reply := forall_mem_or hu.reply hl.reply
  factors := forall_mem_or hu.factors hl.factors

/-! ## Modules of this library -/

namespace Builtin

theorem careful_ofRequest {P : ρ → Prop} {run : ρ → Outcome α}
    (h : ∀ request, (run request).calls = []) :
    Handler.Careful P (Handler.ofRequest run : Handler σ ρ α) := by
  intro request state memory _ c hc
  change c ∈ (run request).calls at hc
  rw [h] at hc
  cases hc

theorem careful_ignore {P : ρ → Prop} : Handler.Careful P (ignore : Handler σ ρ Unit) :=
  careful_ofRequest fun _ => rfl

theorem careful_echo : (echo : ScriptModule σ).Careful where
  exports := ⟨forall_mem_some (careful_ofRequest fun _ => rfl), forall_mem_some careful_ignore,
    forall_mem_some careful_ignore⟩
  installs := Globals.careful_empty

theorem careful_upper : (upper : ScriptModule σ).Careful where
  exports := Exports.careful_none
  installs := by
    refine ⟨forall_mem_some (careful_ofRequest fun m => ?_), forall_mem_none, forall_mem_none,
      forall_mem_none⟩
    split <;> rfl

theorem careful_requestGlobals : (requestGlobals : ScriptModule σ).Careful where
  exports := Exports.careful_none
  installs := by
    refine ⟨forall_mem_none, forall_mem_some ?_, forall_mem_none, forall_mem_none⟩
    intro request state memory _ c hc
    cases hc

/-- The calls of `builtin:relay` have the payloads of messages. -/
theorem careful_relay : relay.Careful where
  exports := by
    refine ⟨forall_mem_some ?_, forall_mem_some careful_ignore, forall_mem_none⟩
    intro request state memory hp c hc
    rw [List.mem_singleton.mp hc]
    exact hp
  installs := Globals.careful_empty

theorem careful_fatal : (fatal : ScriptModule σ).Careful where
  exports := ⟨forall_mem_some (careful_ofRequest fun _ => rfl), forall_mem_none, forall_mem_none⟩
  installs := Globals.careful_empty

theorem careful_modules : ∀ m ∈ modules, m.2.Careful := by
  unfold modules
  simp only [List.forall_mem_cons]
  exact ⟨careful_echo, careful_upper, careful_requestGlobals, careful_relay, careful_fatal,
    List.forall_mem_nil _⟩

/-- What holds of every built-in module holds of every module that can be imported. -/
theorem provides {P : ScriptModule Memory → Prop} (h : ∀ m ∈ modules, P m.2)
    (segments : List String) : Loader.Provides P ⟨registry.importer, segments⟩ := by
  intro specifier memory m hm
  change registry.find specifier = .ok m at hm
  unfold Registry.find at hm
  split at hm
  · rename_i n hn
    cases hm
    obtain ⟨before, after, he, -⟩ := List.lookup_eq_some_iff.mp hn
    have hmem : (specifier, m) ∈ modules := by
      change modules = before ++ (specifier, m) :: after at he
      rw [he]
      exact List.mem_append_right _ List.mem_cons_self
    exact h _ hmem
  · cases hm

theorem careful_builtin (segments : List String) :
    Loader.Careful ⟨registry.importer, segments⟩ :=
  provides careful_modules segments

end Builtin

end ScriptLink
