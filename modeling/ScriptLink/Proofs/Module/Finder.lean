import ScriptLink.Proofs.Module.Search

/-!
# ScriptLink.Proofs.Module.Finder — importers that remember nothing

* A `Finder` finds the module of a name by the name alone, at any time. `Finder.loader` is the loader with such an
  importer.
* `Finder.module?` is the module of a specifier: that of the first name found, of the specifier and its fallback
  candidates; `Finder.reach` is this name. `toOption_found`: it is what a search finds, whatever was loaded before.
-/

namespace ScriptLink

/-- What finds modules by their names alone, and in which other directories it looks. -/
structure Finder (σ : Type) where
  find : String → Except ImportFault (ScriptModule σ)
  segments : List String

namespace Finder

/-- The loader that finds what the finder does and remembers nothing. -/
def loader (l : Finder σ) : Loader σ := ⟨.ofFind l.find, l.segments⟩

/-- The name under which the module of a specifier is found: the first, of the specifier and its fallback
candidates. -/
def reach (l : Finder σ) (specifier : String) : String :=
  ((l.loader.plan specifier).find? fun name => (l.find name).isOk).getD specifier

/-- The module of a specifier: the first that is found, for the specifier and its fallback candidates. -/
def module? (l : Finder σ) (specifier : String) : Option (ScriptModule σ) :=
  (l.loader.plan specifier).findSome? fun name => (l.find name).toOption

variable (l : Finder σ) {specifier : String} {memory : σ} {m : ScriptModule σ}

theorem answers_eq (names : List String) : l.loader.answers names memory = names.map l.find :=
  Loader.answers_of_find rfl names memory

theorem remembered_eq (names : List String) : l.loader.remembered names memory = memory :=
  Loader.remembered_of_find rfl names memory

/-- A search leaves the memory alone. -/
theorem memory_search : (l.loader.search specifier memory).memory = memory := by
  rw [Loader.search_eq]
  exact l.remembered_eq _

theorem toOption_find? (names : List String) :
    ((names.map l.find).find? Except.isOk).bind Except.toOption =
      names.findSome? fun name => (l.find name).toOption := by
  induction names with
  | nil => rfl
  | cons name rest ih =>
    rw [List.map_cons, List.find?_cons, List.findSome?_cons]
    cases l.find name with
    | ok m => rfl
    | error e => exact ih

/-- What a search finds is the module of its specifier. -/
theorem toOption_found (specifier : String) (memory : σ) :
    (l.loader.search specifier memory).found.toOption = l.module? specifier := by
  have hfind := l.toOption_find? (l.loader.plan specifier)
  rw [Loader.search_eq, answers_eq, module?, ← hfind]
  cases hf : ((l.loader.plan specifier).map l.find).find? Except.isOk with
  | some answer => rfl
  | none =>
    have hnone := List.find?_eq_none.mp hf (l.find specifier) List.mem_cons_self
    show (l.find specifier).toOption = none
    cases hs : l.find specifier with
    | ok m =>
      rw [hs] at hnone
      exact absurd rfl hnone
    | error e => rfl

theorem module?_eq_some : l.module? specifier = some m ↔ (l.loader.search specifier memory).found = .ok m := by
  rw [← l.toOption_found specifier memory]
  cases (l.loader.search specifier memory).found <;> simp [Except.toOption]

/-- The module of a specifier is that of the name which the specifier reaches. -/
theorem find_reach (h : l.module? specifier = some m) : l.find (l.reach specifier) = .ok m := by
  unfold module? at h
  unfold reach
  generalize l.loader.plan specifier = names at h
  induction names with
  | nil => cases h
  | cons name rest ih =>
    rw [List.findSome?_cons] at h
    rw [List.find?_cons]
    cases hname : l.find name with
    | ok found =>
      rw [hname] at h
      cases h
      exact hname
    | error e =>
      rw [hname] at h
      exact ih h

/-- Without other directories to look in, a specifier reaches nothing but itself. -/
theorem reach_of_no_segments (h : l.segments = []) (specifier : String) : l.reach specifier = specifier := by
  have hnone : l.loader.candidates specifier = [] := by
    have hsegments : l.loader.segments = [] := h
    unfold Loader.candidates Fallback.candidates
    rw [hsegments]
    split
    · rfl
    · split <;> rfl
  rw [reach, Loader.plan, hnone, List.find?_cons]
  cases (l.find specifier).isOk <;> rfl

end Finder

end ScriptLink
