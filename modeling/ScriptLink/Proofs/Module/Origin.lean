import ScriptLink.Proofs.Module.Search

/-!
# ScriptLink.Proofs.Module.Origin — where handlers come from

* `Loader.Provides P`: every module that can be imported has the property `P`; so has then what a search
  finds (`provided_search`).
* `Loader.globals_loadLive` and `Loader.globals_preload`: what holds of the global scope still holds after
  loading, if installing a module with `P` keeps it.
* `Globals.From P` is the most that can be said so: every handler was installed by a module with `P`.
-/

namespace ScriptLink

theorem forall_mem_or {p : α → Prop} {a b : Option α} (ha : ∀ x ∈ a, p x) (hb : ∀ x ∈ b, p x) :
    ∀ x ∈ a.or b, p x := by
  cases a with
  | none => exact hb
  | some x => exact ha

theorem forall_mem_none {p : α → Prop} : ∀ x ∈ (none : Option α), p x :=
  fun x hx => absurd hx (Option.not_mem_none x)

theorem forall_mem_some {p : α → Prop} {a : α} (h : p a) : ∀ x ∈ some a, p x :=
  fun _ hx => Option.mem_some_iff.mp hx ▸ h

/-- Only modules with the property `P` can be imported, whatever is remembered. -/
def Loader.Provides (P : ScriptModule σ → Prop) (l : Loader σ) : Prop :=
  ∀ specifier memory m, (l.importer specifier memory).1 = .ok m → P m

namespace Loader

variable {P : ScriptModule σ → Prop} {l : Loader σ} (hl : l.Provides P)
include hl

theorem provided_search {specifier : String} {memory : σ} {m : ScriptModule σ}
    (h : (l.search specifier memory).found = .ok m) : P m := by
  obtain ⟨name, after, hm⟩ := l.exists_of_mem_answers (List.mem_of_find?_eq_some (l.found_eq_ok_iff.mp h))
  exact hl name after m hm

variable {Q : Globals σ → Prop} (hQ : ∀ {m g}, P m → Q g → Q (m.installs.above g))
include hQ

theorem globals_loadLive (specifier : String) {s : Scene σ} (hs : Q s.globals) :
    Q (l.loadLive specifier s).2.globals := by
  have hs : Q (s.searched (l.search specifier s.trail.memory)).globals := hs
  unfold loadLive
  dsimp only
  split
  · exact hs
  · rename_i m hm
    show Q (Scene.adopt specifier m _).globals
    unfold Scene.adopt
    split
    · exact hs
    · split
      · exact hs
      · exact hQ (provided_search hl hm) hs

theorem globals_preload (specifiers : List String) {s : Scene σ} (hs : Q s.globals) :
    Q (l.preload specifiers s).2.globals := by
  induction specifiers generalizing s with
  | nil => exact hs
  | cons specifier rest ih =>
    have hload := globals_loadLive hl hQ specifier hs
    unfold preload
    split <;> rename_i heq <;> rw [heq] at hload
    · exact hload
    · exact ih hload

end Loader

/-! ## The global scope -/

namespace Globals

/-- Every handler of the global scope was installed by a module with the property `P`. -/
structure From (P : ScriptModule σ → Prop) (g : Globals σ) : Prop where
  message : ∀ h ∈ g.message, ∃ m, P m ∧ h ∈ m.installs.message
  request : ∀ h ∈ g.request, ∃ m, P m ∧ h ∈ m.installs.request
  reply : ∀ h ∈ g.reply, ∃ m, P m ∧ h ∈ m.installs.reply
  factors : ∀ h ∈ g.factors, ∃ m, P m ∧ h ∈ m.installs.factors

variable {P : ScriptModule σ → Prop}

theorem from_empty : From P (empty : Globals σ) := 
  ⟨forall_mem_none, forall_mem_none, forall_mem_none, forall_mem_none⟩

theorem from_above {m : ScriptModule σ} {g : Globals σ} (hm : P m) (hg : From P g) :
    From P (m.installs.above g) where
  message := forall_mem_or (fun _ h => ⟨m, hm, h⟩) hg.message
  request := forall_mem_or (fun _ h => ⟨m, hm, h⟩) hg.request
  reply := forall_mem_or (fun _ h => ⟨m, hm, h⟩) hg.reply
  factors := forall_mem_or (fun _ h => ⟨m, hm, h⟩) hg.factors

end Globals

end ScriptLink
