import ScriptLink.Module.Loader

/-!
# ScriptLink.Proofs.Module.Search — what is tried for a specifier, and what comes of it

* `Loader.plan` is what a search may try: the specifier and then its fallback candidates. `Loader.answers` is
  what the importer answers to names in turn, if it is asked for all of them. `search_eq`: a search tries its
  plan up to the first answer that is a module, and finds that module; if there is none, it ends with the error
  of the specifier itself.
* `loadLive_of_ok`, `loadLive_of_error`: what loading a module does to a scene. A failure leaves nothing behind
  but the attempts, and what the importer remembers of them.
* `preload_cases`, `preload_failing`: loading modules in turn ends at the first that fails, where it has done
  what loading those before it does.
-/

namespace ScriptLink

namespace Loader

variable (l : Loader σ)

/-! ## Answers -/

/-- What a search for a specifier may try, in this order. -/
def plan (specifier : String) : List String := specifier :: l.candidates specifier

/-- What the importer answers to names in turn, each with the memory that the one before left. -/
def answers : List String → σ → List (Except ImportFault (ScriptModule σ))
  | [], _ => []
  | name :: rest, memory => (l.importer name memory).1 :: answers rest (l.importer name memory).2

/-- The memory after names were tried in turn. -/
def remembered (names : List String) (memory : σ) : σ :=
  names.foldl (fun memory name => (l.importer name memory).2) memory

/-- A specifier is not among its own candidates. -/
theorem not_mem_candidates (specifier : String) : specifier ∉ l.candidates specifier := by
  unfold candidates Fallback.candidates
  split
  · exact List.not_mem_nil
  · split
    · exact List.not_mem_nil
    · intro h
      simpa using (List.mem_filter.mp h).2

/-- Every answer is one to some name. -/
theorem exists_of_mem_answers {names : List String} {memory : σ} {answer : Except ImportFault (ScriptModule σ)}
    (h : answer ∈ l.answers names memory) : ∃ name after, (l.importer name after).1 = answer := by
  induction names generalizing memory with
  | nil => cases h
  | cons name rest ih =>
    rw [answers] at h
    rcases List.mem_cons.mp h with rfl | h
    · exact ⟨name, memory, rfl⟩
    · exact ih h

section

variable {l} {find : String → Except ImportFault (ScriptModule σ)} (h : l.importer = .ofFind find)
include h

/-- An importer that remembers nothing answers each name alone. -/
theorem answers_of_find (names : List String) (memory : σ) : l.answers names memory = names.map find := by
  induction names generalizing memory with
  | nil => rfl
  | cons name rest ih =>
    rw [answers, ih, h]
    rfl

/-- An importer that remembers nothing leaves the memory as it was. -/
theorem remembered_of_find (names : List String) (memory : σ) : l.remembered names memory = memory := by
  induction names generalizing memory with
  | nil => rfl
  | cons name rest ih =>
    show l.remembered rest (l.importer name memory).2 = memory
    rw [ih, h]
    rfl

end

/-! ## Searching -/

/-- Of names that are tried in turn, those up to the first answer that is a module. -/
def tried (names : List String) (memory : σ) : List String :=
  names.take ((l.answers names memory).findIdx Except.isOk + 1)

section

variable {l} {name : String} {memory after : σ}

theorem tried_of_ok {m : ScriptModule σ} (h : l.importer name memory = (.ok m, after)) (rest : List String) :
    l.tried (name :: rest) memory = [name] := by
  rw [tried, answers, h, List.findIdx_cons]
  rfl

theorem tried_of_error {e : ImportFault} (h : l.importer name memory = (.error e, after)) (rest : List String) :
    l.tried (name :: rest) memory = name :: l.tried rest after := by
  rw [tried, answers, h, List.findIdx_cons]
  rfl

theorem remembered_cons {answer : Except ImportFault (ScriptModule σ)}
    (h : l.importer name memory = (answer, after)) (rest : List String) :
    l.remembered (name :: rest) memory = l.remembered rest after := by
  rw [remembered, List.foldl_cons, h]
  rfl

end

/-- The search among candidates: it finds the first answer that is a module. -/
theorem searchAll_eq (first : ImportFault) (names : List String) (memory : σ) :
    l.searchAll first names memory = ⟨l.tried names memory,
      ((l.answers names memory).find? Except.isOk).getD (.error first),
      l.remembered (l.tried names memory) memory⟩ := by
  induction names generalizing memory with
  | nil => rfl
  | cons name rest ih =>
    rcases h : l.importer name memory with ⟨e | m, after⟩
    · rw [tried_of_error h, remembered_cons h, answers, searchAll, h]
      dsimp only
      rw [ih]
      rfl
    · rw [tried_of_ok h, remembered_cons h, answers, searchAll, h]
      rfl

/-- What a search tried, what it found, and what is remembered of it. -/
theorem search_eq (specifier : String) (memory : σ) :
    l.search specifier memory = ⟨l.tried (l.plan specifier) memory,
      ((l.answers (l.plan specifier) memory).find? Except.isOk).getD (l.importer specifier memory).1,
      l.remembered (l.tried (l.plan specifier) memory) memory⟩ := by
  rcases h : l.importer specifier memory with ⟨e | m, after⟩
  · rw [plan, tried_of_error h, remembered_cons h, answers, search, h]
    dsimp only
    rw [searchAll_eq]
    rfl
  · rw [plan, tried_of_ok h, remembered_cons h, answers, search, h]
    rfl

section

variable {specifier : String} {memory : σ}

/-- A search finds the first module among the answers. -/
theorem found_eq_ok_iff {m : ScriptModule σ} : (l.search specifier memory).found = .ok m ↔
    (l.answers (l.plan specifier) memory).find? Except.isOk = some (.ok m) := by
  rw [search_eq]
  cases hf : (l.answers (l.plan specifier) memory).find? Except.isOk with
  | some answer => simp
  | none =>
    -- the answer for the specifier itself is no module
    have hnone := List.find?_eq_none.mp hf _ List.mem_cons_self
    refine iff_of_false (fun hm => hnone ?_) nofun
    rw [show (l.importer specifier memory).1 = .ok m from hm]
    rfl

/-- A search fails if no answer is a module, and then with the error of the specifier. -/
theorem found_eq_error_iff {e : ImportFault} : (l.search specifier memory).found = .error e ↔
    (∀ answer ∈ l.answers (l.plan specifier) memory, answer.isOk = false) ∧
      (l.importer specifier memory).1 = .error e := by
  rw [search_eq]
  cases hf : (l.answers (l.plan specifier) memory).find? Except.isOk with
  | some answer =>
    have hok := List.find?_some hf
    refine iff_of_false (fun he => ?_) (fun h => ?_)
    · rw [show answer = .error e from he] at hok
      cases hok
    · rw [h.1 answer (List.mem_of_find?_eq_some hf)] at hok
      cases hok
  | none =>
    have hnone := List.find?_eq_none.mp hf
    exact ⟨fun he => ⟨fun answer ha => Bool.eq_false_iff.mpr (hnone answer ha), he⟩, fun h => h.2⟩

/-- If the candidates are distinct, nothing is tried twice. -/
theorem nodup_attempts (h : (l.candidates specifier).Nodup) :
    (l.search specifier memory).attempts.Nodup := by
  rw [search_eq]
  exact (List.nodup_cons.mpr ⟨l.not_mem_candidates specifier, h⟩).sublist (List.take_sublist _ _)

end

/-! ## Loading -/

variable {l} {s : Scene σ}

/-- Loading adopts the module that the search finds. -/
theorem loadLive_of_ok {specifier : String} {m : ScriptModule σ}
    (h : (l.search specifier s.trail.memory).found = .ok m) : l.loadLive specifier s =
      (.ok (), (s.searched (l.search specifier s.trail.memory)).adopt specifier m) := by
  unfold loadLive
  dsimp only
  rw [h]

/-- Loading that fails leaves the attempts behind, and nothing else. -/
theorem loadLive_of_error {specifier : String} {e : ImportFault}
    (h : (l.search specifier s.trail.memory).found = .error e) : l.loadLive specifier s =
      (.error e, s.searched (l.search specifier s.trail.memory)) := by
  unfold loadLive
  dsimp only
  rw [h]

theorem imports_adopt (specifier : String) (m : ScriptModule σ) :
    (s.adopt specifier m).trail.imports = s.trail.imports := by
  unfold Scene.adopt
  split
  · rfl
  · split <;> rfl

/-- Whatever comes of it, loading tries what the search tries. -/
theorem imports_loadLive (specifier : String) : (l.loadLive specifier s).2.trail.imports =
    s.trail.imports ++ (l.search specifier s.trail.memory).attempts := by
  cases hf : (l.search specifier s.trail.memory).found with
  | ok m =>
    rw [loadLive_of_ok hf]
    exact imports_adopt specifier m
  | error e =>
    rw [loadLive_of_error hf]
    rfl

/-! ## Loading in turn -/

/-- The scene after modules were loaded in turn, whatever came of it. -/
def loadedAll (l : Loader σ) (names : List String) (s : Scene σ) : Scene σ :=
  names.foldl (fun s name => (l.loadLive name s).2) s

/-- What is tried when modules are loaded in turn. -/
def attemptsAll (l : Loader σ) : List String → Scene σ → List String
  | [], _ => []
  | name :: rest, s =>
    (l.search name s.trail.memory).attempts ++ l.attemptsAll rest (l.loadLive name s).2

theorem preload_cons_of_ok {name : String} {m : ScriptModule σ}
    (h : (l.search name s.trail.memory).found = .ok m) (rest : List String) :
    l.preload (name :: rest) s = l.preload rest (l.loadLive name s).2 := by
  rw [preload, loadLive_of_ok h]

theorem preload_cons_of_error {name : String} {e : ImportFault}
    (h : (l.search name s.trail.memory).found = .error e) (rest : List String) :
    l.preload (name :: rest) s =
      (.error (.preload name e), s.searched (l.search name s.trail.memory)) := by
  rw [preload, loadLive_of_error h]

/-- Loading goes on behind modules that are all found. -/
theorem preload_append {before : List String} (h : (l.preload before s).1 = .ok ()) (rest : List String) :
    l.preload (before ++ rest) s = l.preload rest (l.preload before s).2 := by
  induction before generalizing s with
  | nil => rfl
  | cons name before ih =>
    cases hf : (l.search name s.trail.memory).found with
    | error e =>
      rw [preload_cons_of_error hf] at h
      cases h
    | ok m =>
      rw [preload_cons_of_ok hf] at h ⊢
      rw [List.cons_append, preload_cons_of_ok hf]
      exact ih h

/-- Loading in turn ends at the first module that is not found. -/
theorem preload_failing {before : List String} {name : String} {e : ImportFault}
    (h : (l.preload before s).1 = .ok ())
    (hname : (l.search name (l.preload before s).2.trail.memory).found = .error e) (after : List String) :
    l.preload (before ++ name :: after) s = (.error (.preload name e),
      (l.preload before s).2.searched (l.search name (l.preload before s).2.trail.memory)) := by
  rw [preload_append h, preload_cons_of_error hname]

/-- Loading in turn succeeds, or some module is the first that is not found. -/
theorem preload_cases (l : Loader σ) (names : List String) (s : Scene σ) :
    (l.preload names s).1 = .ok () ∨ ∃ before name after e, names = before ++ name :: after ∧
      (l.preload before s).1 = .ok () ∧
        (l.search name (l.preload before s).2.trail.memory).found = .error e := by
  induction names generalizing s with
  | nil => exact .inl rfl
  | cons name rest ih =>
    cases hf : (l.search name s.trail.memory).found with
    | error e => exact .inr ⟨[], name, rest, e, rfl, rfl, hf⟩
    | ok m =>
      rcases ih (l.loadLive name s).2 with hok | ⟨before, failing, after, e, rfl, hbefore, he⟩
      · exact .inl (by rw [preload_cons_of_ok hf, hok])
      · refine .inr ⟨name :: before, failing, after, e, rfl, ?_, ?_⟩
        · rw [preload_cons_of_ok hf, hbefore]
        · rw [preload_cons_of_ok hf, he]

/-- Modules that are all found are loaded one after the other. -/
theorem preload_eq_loadedAll {names : List String} (h : (l.preload names s).1 = .ok ()) :
    (l.preload names s).2 = l.loadedAll names s := by
  induction names generalizing s with
  | nil => rfl
  | cons name rest ih =>
    cases hf : (l.search name s.trail.memory).found with
    | error e =>
      rw [preload_cons_of_error hf] at h
      cases h
    | ok m =>
      rw [preload_cons_of_ok hf] at h ⊢
      exact ih h

theorem imports_loadedAll (names : List String) (s : Scene σ) :
    (l.loadedAll names s).trail.imports = s.trail.imports ++ l.attemptsAll names s := by
  induction names generalizing s with
  | nil => exact (List.append_nil _).symm
  | cons name rest ih =>
    show (l.loadedAll rest (l.loadLive name s).2).trail.imports = _
    rw [ih, imports_loadLive, attemptsAll, List.append_assoc]

theorem attemptsAll_concat (names : List String) (name : String) (s : Scene σ) :
    l.attemptsAll (names ++ [name]) s =
      l.attemptsAll names s ++ (l.search name (l.loadedAll names s).trail.memory).attempts := by
  induction names generalizing s with
  | nil => exact List.append_nil _
  | cons first rest ih =>
    rw [List.cons_append, attemptsAll, ih, attemptsAll, List.append_assoc]
    rfl

/-- Without memory, what is tried for a module does not depend on what was loaded before it. -/
theorem attemptsAll_of_find {find : String → Except ImportFault (ScriptModule σ)} (h : l.importer = .ofFind find)
    (names : List String) (s : Scene σ) (memory : σ) :
    l.attemptsAll names s = names.flatMap fun name => (l.search name memory).attempts := by
  have hattempts (name : String) (memory : σ) : (l.search name memory).attempts =
      (l.plan name).take (((l.plan name).map find).findIdx Except.isOk + 1) := by
    rw [search_eq, tried, answers_of_find h]
  induction names generalizing s with
  | nil => rfl
  | cons name rest ih => rw [attemptsAll, ih, List.flatMap_cons, hattempts, hattempts name memory]

end Loader

end ScriptLink
