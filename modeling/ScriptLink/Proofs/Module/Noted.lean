import ScriptLink.Proofs.Module.Installed

/-!
# ScriptLink.Proofs.Module.Noted — keeping note of the installations

* `Finder.noted l` has the modules of `l`, but what is done when one is installed also notes the name under
  which it was imported, in a list beside the memory; handlers leave that list alone.
* `Scene.noted l s` is the scene `s` with the notes that its state tells of: the name that the search for each
  installed specifier reaches (`Finder.reach`).
* `loadLive_noted`, `preload_noted`: loading goes the same way with notes as without, and the notes stay those
  of the state.
-/

namespace ScriptLink

/-! ## Modules -/

/-- A memory with notes beside it. -/
abbrev WithNotes (σ : Type) : Type := σ × List String

/-- The handler, with notes that it leaves alone. -/
def Handler.noted (h : Handler σ ρ α) : Handler (WithNotes σ) ρ α := fun request state memory =>
  ((h request state memory.1).1, ((h request state memory.1).2, memory.2))

/-- The exports, with notes that they leave alone. -/
def Exports.noted (e : Exports σ) : Exports (WithNotes σ) where
  message := e.message.map Handler.noted
  reply := e.reply.map Handler.noted
  factors := e.factors.map Handler.noted

/-- The global scope, with notes that it leaves alone. -/
def Globals.noted (g : Globals σ) : Globals (WithNotes σ) where
  message := g.message.map Handler.noted
  request := g.request.map Handler.noted
  reply := g.reply.map Handler.noted
  factors := g.factors.map Handler.noted

/-- The module, which when it is installed also notes the name. -/
def ScriptModule.noted (name : String) (m : ScriptModule σ) : ScriptModule (WithNotes σ) where
  exports := m.exports.noted
  installs := m.installs.noted
  onInstall memory := (m.onInstall memory.1, memory.2 ++ [name])

theorem Globals.noted_above (upper lower : Globals σ) :
    (upper.above lower).noted = upper.noted.above lower.noted := by
  unfold Globals.noted Globals.above
  simp only [Option.map_or]

/-! ## Searching -/

namespace Finder

/-- The finder, whose modules note their names. -/
def noted (l : Finder σ) : Finder (WithNotes σ) where
  find specifier := (l.find specifier).map (ScriptModule.noted specifier)
  segments := l.segments

variable (l : Finder σ)

theorem findIdx_noted (names : List String) : ((names.map l.noted.find).findIdx Except.isOk) =
    (names.map l.find).findIdx Except.isOk := by
  induction names with
  | nil => rfl
  | cons name rest ih =>
    rw [List.map_cons, List.map_cons, List.findIdx_cons, List.findIdx_cons, ih, noted]
    dsimp only
    cases l.find name <;> rfl

/-- The module that is found notes where. -/
theorem find?_noted (names : List String) (specifier : String) :
    (((names.map l.noted.find).find? Except.isOk).getD (l.noted.find specifier)) =
      (((names.map l.find).find? Except.isOk).getD (l.find specifier)).map
        (ScriptModule.noted ((names.find? fun name => (l.find name).isOk).getD specifier)) := by
  induction names with
  | nil => rfl
  | cons name rest ih =>
    have hname : l.noted.find name = (l.find name).map (ScriptModule.noted name) := rfl
    rw [List.map_cons, List.map_cons, List.find?_cons, List.find?_cons, List.find?_cons, hname]
    cases l.find name with
    | ok m => rfl
    | error e => exact ih

/-- A search goes the same way, and finds the module that notes where. -/
theorem search_noted (specifier : String) (memory : σ) (notes : List String) :
    let plain := l.loader.search specifier memory
    l.noted.loader.search specifier (memory, notes) =
      ⟨plain.attempts, plain.found.map (ScriptModule.noted (l.reach specifier)), (plain.memory, notes)⟩ := by
  intro plain
  have hplan : l.noted.loader.plan specifier = l.loader.plan specifier := rfl
  have hmemory : plain.memory = memory := l.memory_search
  rw [Loader.search_eq, hplan, hmemory, remembered_eq, Loader.tried, answers_eq, findIdx_noted]
  have hplain : plain = _ := l.loader.search_eq specifier memory
  rw [hplain, Loader.tried, answers_eq]
  exact congrArg (Search.mk _ · _) (l.find?_noted (l.loader.plan specifier) specifier)

end Finder

/-! ## Loading -/

/-- The scene, with the notes that its state tells of. -/
def Scene.noted (l : Finder σ) (s : Scene σ) : Scene (WithNotes σ) where
  state := s.state
  globals := s.globals.noted
  trail := ⟨s.trail.imports, (s.trail.memory, s.state.installed.map l.reach)⟩

section

variable (l : Finder σ) (s : Scene σ)

theorem Scene.adopt_noted (specifier : String) (m : ScriptModule σ) :
    (s.noted l).adopt specifier (m.noted (l.reach specifier)) = (s.adopt specifier m).noted l := by
  have hstate := SessionState.installed_add? specifier s.state
  by_cases hmem : specifier ∈ s.state.installed
  · have hnoted : specifier ∈ (s.noted l).state.installed := hmem
    rw [adopt_of_mem hmem, adopt_of_mem hnoted]
    rw [if_pos hmem, List.append_nil] at hstate
    unfold noted
    dsimp only
    rw [hstate]
  · have hnoted : specifier ∉ (s.noted l).state.installed := hmem
    rw [adopt_of_not_mem hmem, adopt_of_not_mem hnoted]
    rw [if_neg hmem] at hstate
    unfold noted install
    dsimp only
    rw [hstate, List.map_append, Globals.noted_above]
    rfl

namespace Finder

theorem loadLive_noted (specifier : String) : l.noted.loader.loadLive specifier (s.noted l) =
    ((l.loader.loadLive specifier s).1, (l.loader.loadLive specifier s).2.noted l) := by
  have hsearch := l.search_noted specifier s.trail.memory (s.state.installed.map l.reach)
  have hnoted : (s.noted l).trail.memory = (s.trail.memory, s.state.installed.map l.reach) := rfl
  unfold Loader.loadLive
  dsimp only
  rw [hnoted, hsearch]
  dsimp only
  cases (l.loader.search specifier s.trail.memory).found with
  | error e => rfl
  | ok m =>
    show (Except.ok (), Scene.adopt specifier (m.noted (l.reach specifier))
      ((s.searched (l.loader.search specifier s.trail.memory)).noted l)) = _
    rw [Scene.adopt_noted]

theorem preload_noted (specifiers : List String) : l.noted.loader.preload specifiers (s.noted l) =
    ((l.loader.preload specifiers s).1, (l.loader.preload specifiers s).2.noted l) := by
  induction specifiers generalizing s with
  | nil => rfl
  | cons specifier rest ih =>
    unfold Loader.preload
    rw [loadLive_noted]
    rcases l.loader.loadLive specifier s with ⟨loaded, next⟩
    cases loaded with
    | error e => rfl
    | ok u => exact ih next

end Finder

end

end ScriptLink
