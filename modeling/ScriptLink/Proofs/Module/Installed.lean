import Mathlib.Data.List.Induction
import ScriptLink.Proofs.Module.Finder

/-!
# ScriptLink.Proofs.Module.Installed — which modules are installed, and in which order

* `SessionState.installed` lists the specifiers under which modules were installed, oldest first: the
  target, and then the other modules. `Scene.adopt_of_mem` and `Scene.adopt_of_not_mem` say that adopting a
  module installs it if and only if its specifier is not among them.
* `Globals.stack` is the global scope that modules leave when they are installed in turn;
  `Globals.stack_slot`: the last of them that has a handler for a slot prevails.
* `Finder.Installed l s`: the scene `s` has the global scope of its installed modules. Loading keeps it so.
-/

namespace ScriptLink

/-! ## Installing in turn -/

/-- The specifiers under which modules were installed, in this order. -/
def SessionState.installed (s : SessionState) : List String :=
  s.target :: s.modules.filter fun specifier => specifier != s.target

theorem SessionState.mem_installed {s : SessionState} {specifier : String} :
    specifier ∈ s.installed ↔ specifier = s.target ∨ specifier ∈ s.modules := by
  rw [installed, List.mem_cons, List.mem_filter]
  by_cases h : specifier = s.target <;> simp [h]

/-- Adding a specifier puts it behind those that are installed, unless it is among them. -/
theorem SessionState.installed_add? (specifier : String) (s : SessionState) :
    ((s.add? specifier).getD s).installed =
      s.installed ++ if specifier ∈ s.installed then [] else [specifier] := by
  unfold add? has
  by_cases hmem : specifier ∈ s.modules
  · have hinstalled : specifier ∈ s.installed := mem_installed.mpr (.inr hmem)
    rw [if_pos (by simp [hmem]), if_pos hinstalled, List.append_nil]
    rfl
  · rw [if_neg (by simp [hmem])]
    show installed { s with modules := s.modules ++ [specifier] } = _
    by_cases htarget : specifier = s.target
    · rw [if_pos (mem_installed.mpr (.inl htarget))]
      simp [installed, List.filter_append, htarget]
    · rw [if_neg fun h => (mem_installed.mp h).elim htarget hmem]
      simp [installed, List.filter_append, htarget]

namespace Scene

/-- A module whose specifier is there already is not installed again, and neither is the target. -/
theorem adopt_of_mem {specifier : String} {s : Scene σ} (h : specifier ∈ s.state.installed)
    (m : ScriptModule σ) :
    s.adopt specifier m = { s with state := (s.state.add? specifier).getD s.state } := by
  unfold adopt SessionState.add? SessionState.has
  by_cases hmem : specifier ∈ s.state.modules
  · rw [if_pos (by simp [hmem])]
    rfl
  · rw [if_neg (by simp [hmem])]
    exact if_pos ((SessionState.mem_installed.mp h).resolve_right hmem)

/-- Any other module is installed. -/
theorem adopt_of_not_mem {specifier : String} {s : Scene σ} (h : specifier ∉ s.state.installed)
    (m : ScriptModule σ) :
    s.adopt specifier m = Scene.install m { s with state := (s.state.add? specifier).getD s.state } := by
  have hne : specifier ≠ s.state.target := fun e => h (SessionState.mem_installed.mpr (.inl e))
  have hmem : specifier ∉ s.state.modules := fun e => h (SessionState.mem_installed.mpr (.inr e))
  unfold adopt SessionState.add? SessionState.has
  rw [if_neg (by simp [hmem])]
  exact if_neg hne

end Scene

/-! ## The global scope of several modules -/

namespace Globals

/-- The global scope after modules were installed in turn. -/
def stack (ms : List (ScriptModule σ)) : Globals σ :=
  ms.foldl (fun g m => m.installs.above g) .empty

theorem stack_concat (ms : List (ScriptModule σ)) (m : ScriptModule σ) :
    stack (ms ++ [m]) = m.installs.above (stack ms) := by
  rw [stack, List.foldl_append]
  rfl

/-- A slot holds what the last module has for it. -/
theorem stack_slot {slot : Globals σ → Option α} (hempty : slot .empty = none)
    (habove : ∀ upper lower, slot (upper.above lower) = (slot upper).or (slot lower))
    (ms : List (ScriptModule σ)) :
    slot (stack ms) = (ms.filterMap fun m => slot m.installs).getLast? := by
  induction ms using List.reverseRecOn with
  | nil => exact hempty
  | append_singleton ms m ih =>
    rw [stack_concat, habove, ih, List.filterMap_append, List.getLast?_append]
    cases hm : slot m.installs <;> simp [hm]

end Globals

/-! ## Scenes -/

namespace Finder

/-- What the last of the installed modules that has a handler for a slot has for it. -/
def registered (l : Finder σ) (slot : Globals σ → Option α) (s : SessionState) : Option α :=
  (s.installed.filterMap fun specifier => (l.module? specifier).bind fun m => slot m.installs).getLast?

/-- The global scope of a scene is that of its modules, each installed under a specifier once. -/
structure Installed (l : Finder σ) (s : Scene σ) : Prop where
  nodup : s.state.installed.Nodup
  found : ∀ specifier ∈ s.state.installed, (l.module? specifier).isSome = true
  globals : s.globals = Globals.stack (s.state.installed.filterMap l.module?)

section

variable {l : Finder σ} {s : Scene σ}

theorem Installed.slot (h : l.Installed s) {slot : Globals σ → Option α}
    (hempty : slot .empty = none)
    (habove : ∀ upper lower, slot (upper.above lower) = (slot upper).or (slot lower)) :
    slot s.globals = l.registered slot s.state := by
  rw [h.globals, Globals.stack_slot hempty habove, List.filterMap_filterMap]
  rfl

theorem Installed.of_state (h : l.Installed s) {next : Scene σ} (hglobals : next.globals = s.globals)
    (hstate : next.state.installed = s.state.installed) : l.Installed next :=
  ⟨by rw [hstate]; exact h.nodup, by rw [hstate]; exact h.found,
    by rw [hglobals, hstate]; exact h.globals⟩

theorem Installed.adopt (h : l.Installed s) {specifier : String} {m : ScriptModule σ}
    (hm : l.module? specifier = some m) : l.Installed (s.adopt specifier m) := by
  have hstate := SessionState.installed_add? specifier s.state
  by_cases hmem : specifier ∈ s.state.installed
  · rw [Scene.adopt_of_mem hmem]
    rw [if_pos hmem, List.append_nil] at hstate
    exact h.of_state rfl hstate
  · rw [Scene.adopt_of_not_mem hmem]
    rw [if_neg hmem] at hstate
    refine ⟨?_, ?_, ?_⟩
    · show ((s.state.add? specifier).getD s.state).installed.Nodup
      rw [hstate, List.nodup_append]
      refine ⟨h.nodup, List.pairwise_singleton _ _, fun a ha b hb hab => hmem ?_⟩
      rw [← List.mem_singleton.mp hb, ← hab]
      exact ha
    · show ∀ name ∈ ((s.state.add? specifier).getD s.state).installed, _
      rw [hstate]
      refine List.forall_mem_append.mpr ⟨h.found, List.forall_mem_singleton.mpr ?_⟩
      rw [hm]
      rfl
    · show m.installs.above s.globals =
        Globals.stack (((s.state.add? specifier).getD s.state).installed.filterMap l.module?)
      rw [hstate, List.filterMap_append, List.filterMap_cons_some hm, List.filterMap_nil,
        Globals.stack_concat, h.globals]

theorem Installed.loadLive (h : l.Installed s) (specifier : String) :
    l.Installed (l.loader.loadLive specifier s).2 := by
  have hs : l.Installed (s.searched (l.loader.search specifier s.trail.memory)) := h.of_state rfl rfl
  unfold Loader.loadLive
  dsimp only
  split
  · exact hs
  · rename_i m hm
    exact hs.adopt (l.module?_eq_some.mpr hm)

theorem Installed.preload (h : l.Installed s) (specifiers : List String) :
    l.Installed (l.loader.preload specifiers s).2 := by
  induction specifiers generalizing s with
  | nil => exact h
  | cons specifier rest ih =>
    have hload := h.loadLive specifier
    unfold Loader.preload
    split <;> rename_i heq <;> rw [heq] at hload
    · exact hload
    · exact ih hload

/-- With the target alone, the global scope is that of the target. -/
theorem installed_target {state : SessionState} {target : ScriptModule σ} {trail : Trail σ}
    (htarget : l.module? state.target = some target) (hmodules : state.modules = []) :
    l.Installed (Scene.install target ⟨state, .empty, trail⟩) := by
  have hinstalled : state.installed = [state.target] := by
    rw [SessionState.installed, hmodules]
    rfl
  refine ⟨?_, ?_, ?_⟩
  · show state.installed.Nodup
    rw [hinstalled]
    exact List.pairwise_singleton _ _
  · show ∀ name ∈ state.installed, _
    rw [hinstalled]
    refine List.forall_mem_singleton.mpr ?_
    rw [htarget]
    rfl
  · show target.installs.above .empty = Globals.stack (state.installed.filterMap l.module?)
    rw [hinstalled, List.filterMap_cons_some htarget]
    rfl

end

end Finder

end ScriptLink
