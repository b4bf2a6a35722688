import ScriptLink.Proofs.Module.Search
import ScriptLink.Session.Run

/-!
# ScriptLink.Proofs.Session.Beginning — how a session begins, and how it fails to

* `Dispatcher.bootstrap_of_target` and `Dispatcher.bootstrap_of_found` follow the beginning of a session up to its
  target and then to its modules.
* `Session.bootstrap_of_ok` and `Session.bootstrap_of_error`: a session takes the channel from its slot when all
  else succeeded, so one that does not begin leaves the slot as it was (`Session.slot_of_error`);
  `Session.of_bootstrap` is what one that begins is like.
* `loads_in_turn`: what is tried, found and kept when modules are loaded, at the beginning of a session and while
  it runs.
-/

namespace ScriptLink

namespace Dispatcher

variable {seed : Seed} {l : Loader σ} {memory : σ} {state : SessionState}

/-- A session whose target cannot be imported does not begin. -/
theorem bootstrap_of_target {e : ImportFault} (hs : SessionState.ofSeed? seed = some state)
    (he : (l.search state.target memory).found = .error e) : bootstrap seed l memory =
      (.error (.targetImport state.target e),
        ⟨(l.search state.target memory).attempts, (l.search state.target memory).memory⟩) := by
  unfold bootstrap
  simp only [hs, he]

/-- A session whose target was found begins if its modules can be loaded after it. -/
theorem bootstrap_of_found {target : ScriptModule σ} (hs : SessionState.ofSeed? seed = some state)
    (ht : (l.search state.target memory).found = .ok target) :
    let search := l.search state.target memory
    let first := ofTarget l state ⟨search.attempts, search.memory⟩ target
    let loaded := l.preload seed.modules first.scene
    bootstrap seed l memory = (match loaded.1 with
      | .error e => .error (.load e)
      | .ok () => .ok { first with scene := loaded.2 }, loaded.2.trail) := by
  intro search first loaded
  unfold bootstrap
  simp only [hs, ht]
  subst loaded
  generalize l.preload seed.modules first.scene = loaded
  obtain ⟨result, scene⟩ := loaded
  cases result with
  | error e => rfl
  | ok => rfl

end Dispatcher

namespace Session

variable {seed : Seed} {l : Loader σ} {memory : σ} {rid : UInt32} {slot : Slot Transport}

/-- A session that does not get to its channel leaves the slot as it was. -/
theorem bootstrap_of_error {f : SessionFault} {trail : Trail σ}
    (h : Dispatcher.bootstrap seed l memory = (.error f, trail)) :
    bootstrap seed l memory rid slot = (.error f, trail, slot) := by
  unfold bootstrap
  rw [h]

/-- A session that is ready for its channel takes it from the slot. -/
theorem bootstrap_of_ok {d : Dispatcher σ} (h : (Dispatcher.bootstrap seed l memory).1 = .ok d) :
    bootstrap seed l memory rid slot =
      match slot.take rid with
      | .error e => (.error (.channel e), (Dispatcher.bootstrap seed l memory).2, slot)
      | .ok (handle, after) => (.ok ⟨handle, d, 0, 0⟩, (Dispatcher.bootstrap seed l memory).2, after) := by
  unfold bootstrap
  rcases hd : Dispatcher.bootstrap seed l memory with ⟨_ | d', trail⟩ <;> rw [hd] at h <;> cases h
  rfl

/-- A session that begins has a dispatcher that began, and the channel of its slot. -/
theorem of_bootstrap {s : Session σ} (h : (bootstrap seed l memory rid slot).1 = .ok s) :
    ∃ d handle after, (Dispatcher.bootstrap seed l memory).1 = .ok d ∧ slot.take rid = .ok (handle, after) ∧
      s = ⟨handle, d, 0, 0⟩ := by
  cases hd : (Dispatcher.bootstrap seed l memory).1 with
  | error f =>
    rw [bootstrap_of_error (Prod.ext hd rfl)] at h
    cases h
  | ok d =>
    rw [bootstrap_of_ok hd] at h
    split at h
    case h_1 => cases h
    case h_2 handle after htake => exact ⟨d, handle, after, rfl, htake, (Except.ok.inj h).symm⟩

/-- A session that does not begin, whatever the reason, leaves the slot as it was. -/
theorem slot_of_error {f : SessionFault} (h : (bootstrap seed l memory rid slot).1 = .error f) :
    (bootstrap seed l memory rid slot).2.2 = slot := by
  cases hd : (Dispatcher.bootstrap seed l memory).1 with
  | error g => rw [bootstrap_of_error (Prod.ext hd rfl)]
  | ok d =>
    rw [bootstrap_of_ok hd] at h ⊢
    split at h
    · rfl
    · cases h

end Session

/-! ## Loading, from its search to its session -/

/-- **Loading in turn**, whatever the importer remembers: a search tries the specifier and then its fallback
candidates, each once and in this order, up to the first answer that is a module, and finds that module; if there
is none, it ends with the error of the specifier itself. Loading a module while a session runs tries what the
search tries and adopts what it finds; a failure leaves state and global scope as they were, and the memory to the
importer. Loading modules in turn does so with one after the other, up to the first that is not found, where all
is as loading those before it left it. The beginning of a session imports its target so and then loads its
modules, and if either fails, the slot of the channel is what it was. An importer that remembers nothing answers
each name alone, and leaves the memory as it was. -/
theorem loads_in_turn (l : Loader σ) :
    (∀ specifier memory,
      let plan := specifier :: l.candidates specifier
      let answers := l.answers plan memory
      let search := l.search specifier memory
      search.attempts = plan.take (answers.findIdx Except.isOk + 1) ∧
      (∀ m, search.found = .ok m ↔ answers.find? Except.isOk = some (.ok m)) ∧
      (∀ e, search.found = .error e ↔
        (∀ answer ∈ answers, answer.isOk = false) ∧ (l.importer specifier memory).1 = .error e) ∧
      search.memory = l.remembered search.attempts memory ∧
      ((l.candidates specifier).Nodup → search.attempts.Nodup)) ∧
    (∀ specifier (s : Scene σ),
      let search := l.search specifier s.trail.memory
      let after := (l.loadLive specifier s).2
      after.trail.imports = s.trail.imports ++ search.attempts ∧
      (∀ m, search.found = .ok m → (l.loadLive specifier s).1 = .ok () ∧
        after = (s.searched search).adopt specifier m) ∧
      (∀ e, search.found = .error e → (l.loadLive specifier s).1 = .error e ∧
        after.state = s.state ∧ after.globals = s.globals ∧ after.trail.memory = search.memory)) ∧
    (∀ names (s : Scene σ),
      let loaded := (l.preload names s).1
      let after := (l.preload names s).2
      (loaded = .ok () ∧ after = names.foldl (fun s name => (l.loadLive name s).2) s ∧
        after.trail.imports = s.trail.imports ++ l.attemptsAll names s) ∨
      ∃ before name rest e, names = before ++ name :: rest ∧
        let earlier := (l.preload before s).2
        let search := l.search name earlier.trail.memory
        (l.preload before s).1 = .ok () ∧ search.found = .error e ∧
        loaded = .error (.preload name e) ∧
        after.state = earlier.state ∧ after.globals = earlier.globals ∧
        after.trail.memory = search.memory ∧
        after.trail.imports = s.trail.imports ++ l.attemptsAll (before ++ [name]) s) ∧
    (∀ seed memory rid slot state, SessionState.ofSeed? seed = some state →
      let search := l.search state.target memory
      (∀ e, search.found = .error e → Session.bootstrap seed l memory rid slot =
        (.error (.targetImport state.target e), ⟨search.attempts, search.memory⟩, slot)) ∧
      (∀ target, search.found = .ok target →
        let first := Dispatcher.ofTarget l state ⟨search.attempts, search.memory⟩ target
        let after := (l.preload seed.modules first.scene).2
        (∀ e, (l.preload seed.modules first.scene).1 = .error e →
          Session.bootstrap seed l memory rid slot = (.error (.load e), after.trail, slot)) ∧
        ((l.preload seed.modules first.scene).1 = .ok () → Dispatcher.bootstrap seed l memory =
          (.ok { first with scene := after }, after.trail)))) ∧
    (∀ find, l.importer = .ofFind find →
      (∀ names memory, l.answers names memory = names.map find ∧ l.remembered names memory = memory) ∧
      (∀ names (s : Scene σ) memory,
        l.attemptsAll names s = names.flatMap fun name => (l.search name memory).attempts)) := by
  refine ⟨fun specifier memory => ⟨?_, fun m => l.found_eq_ok_iff, fun e => l.found_eq_error_iff, ?_,
      l.nodup_attempts⟩,
    fun specifier s => ⟨Loader.imports_loadLive specifier, fun m hm => ?_, fun e he => ?_⟩,
    fun names s => ?_, fun seed memory rid slot state hs => ⟨fun e he => ?_, fun target ht => ?_⟩,
    fun find hfind => ⟨fun names memory =>
        ⟨Loader.answers_of_find hfind names memory, Loader.remembered_of_find hfind names memory⟩,
      Loader.attemptsAll_of_find hfind⟩⟩
  · rw [Loader.search_eq]
    rfl
  · rw [Loader.search_eq]
  · rw [Loader.loadLive_of_ok hm]
    exact ⟨rfl, rfl⟩
  · rw [Loader.loadLive_of_error he]
    exact ⟨rfl, rfl, rfl, rfl⟩
  · rcases l.preload_cases names s with hok | ⟨before, name, rest, e, rfl, hbefore, he⟩
    · refine .inl ⟨hok, Loader.preload_eq_loadedAll hok, ?_⟩
      rw [Loader.preload_eq_loadedAll hok, Loader.imports_loadedAll]
    · refine .inr ⟨before, name, rest, e, rfl, hbefore, he, ?_⟩
      have hearlier := Loader.preload_eq_loadedAll hbefore
      rw [Loader.preload_failing hbefore he]
      refine ⟨rfl, rfl, rfl, rfl, ?_⟩
      rw [Loader.attemptsAll_concat, ← List.append_assoc, ← Loader.imports_loadedAll, ← hearlier]
      rfl
  · exact Session.bootstrap_of_error (Dispatcher.bootstrap_of_target hs he)
  · intro first after
    have hbegin : Dispatcher.bootstrap seed l memory = _ := Dispatcher.bootstrap_of_found hs ht
    refine ⟨fun e he => Session.bootstrap_of_error ?_, fun hok => ?_⟩
    · rw [hbegin, he]
    · rw [hbegin, hok]

end ScriptLink
