import ScriptLink.Host.Bootstrap
import ScriptLink.Proofs.Session.Beginning
import ScriptLink.Proofs.Session.History
import ScriptLink.Proofs.Target.Resolve

/-!
# ScriptLink.Proofs.Host.Bootstrap — the target with which a host begins

The target goes from the configuration, or from the runtime configuration in it, through the search for it into the
seed of a session, and from there into its state. Each of them takes white space away and refuses what is blank, and
what the search leaves stays as it is.

* `seed_of_ofConfig`: the target of the seed is a `Specifier`.
* `Session.late_of_run`: what a session fails of once it began is neither its target nor a module of its seed.
* `ofConfig_settles`: a session begins with the target of its seed and keeps it, and where that was a relative path,
  it is the first file among the candidates.
-/

namespace ScriptLink

/-! ## Sessions -/

/-- A seed with a specifier has a state, whose target it is. -/
theorem SessionState.ofSeed?_of_specifier {seed : Seed} {t : String} (ht : seed.target = some t)
    (h : Specifier t) : SessionState.ofSeed? seed = some ⟨t, [], seed.factors, seed.args⟩ := by
  unfold SessionState.ofSeed?
  rw [ht, Option.bind_some, h.trimmed?]
  rfl

namespace Session

variable {seed : Seed} {l : Loader σ} {memory : σ} {rid : UInt32} {slot : Slot Transport}

/-- A session does not lack its target where the seed has a state. -/
theorem bootstrap_ne_missingTarget {state : SessionState} (hs : SessionState.ofSeed? seed = some state) :
    (bootstrap seed l memory rid slot).1 ≠ .error .missingTarget := by
  intro h
  cases hd : (Dispatcher.bootstrap seed l memory).1 with
  | error f =>
    rw [bootstrap_of_error (Prod.ext hd rfl)] at h
    cases h
    unfold Dispatcher.bootstrap at hd
    rw [hs] at hd
    dsimp only at hd
    split at hd
    · cases hd
    · split at hd <;> cases hd
  | ok d =>
    rw [bootstrap_of_ok hd] at h
    split at h <;> cases h

/-- The target of a session is that of its seed, whatever lines it took. -/
theorem target_of_bootstrap {t : String} (ht : seed.target = some t) (htrim : Text.trim t = t) {s : Session σ}
    (h : (bootstrap seed l memory rid slot).1 = .ok s) (lines : List (UInt64 × String)) :
    (s.dispatcher.after (lines.map fun m => (m.1, Frame.decode m.2))).scene.state.target = t := by
  obtain ⟨d, handle, after, hd, -, rfl⟩ := of_bootstrap h
  obtain ⟨target, htarget, htold⟩ := Dispatcher.told_bootstrap hd
  rw [ht, Option.map_some, htrim] at htarget
  cases htarget
  exact (htold.after lines).target

theorem late_of_turn {o : Options} {line : String} {s : Session σ} {f : SessionFault}
    (h : (s.turn o line).1 = some (.failed f)) : f.early = false := by
  unfold turn at h
  dsimp only at h
  split at h
  · cases h
    rfl
  · cases hv : (s.dispatcher.dispatch (o.clock s.framesIn) (Frame.decode line)).verdict with
    | proceed | stop => rw [hv] at h; cases h
    | failure g =>
      rw [hv] at h
      cases g <;> cases h
      rfl

/-- A session that runs fails of its channel or of a handler. -/
theorem late_of_pumpFor {o : Options} {n : Nat} {s : Session σ} {f : SessionFault}
    (h : (s.pumpFor o n).1 = .failed f) : f.early = false := by
  induction n generalizing s with
  | zero => cases h
  | succ n ih =>
    unfold pumpFor at h
    split at h
    · cases h
    · cases h
      rfl
    · split at h
      · rename_i ending after hturn
        obtain rfl : ending = .failed f := h
        exact late_of_turn (congrArg Prod.fst hturn)
      · exact ih h

theorem late_of_run {o : Options} {s : Session σ} {f : SessionFault} (h : (s.run o).1 = .failed f) :
    f.early = false := by
  unfold run at h
  split at h
  · cases h
    rfl
  · exact late_of_pumpFor h

end Session

/-! ## Settings -/

namespace HostSettings

variable {config : Config} {args : List String} {startup : Startup} {fs : FileSystem} {settings : HostSettings}

/-- The target that was given has no white space around it and is not blank. -/
theorem trimmed?_of_rawTarget? {runtime : RuntimeConfig} {raw : String} (h : rawTarget? config runtime = some raw) :
    Text.trimmed? raw = some raw := by
  have htrimmed {given : Option String} (h : given.bind Text.trimmed? = some raw) : Text.trimmed? raw = some raw := by
    obtain ⟨s, -, hs⟩ := Option.bind_eq_some_iff.mp h
    exact Text.trimmed?_of_trim (Text.trim_of_trimmed? hs) (Text.trimmed?_eq_some_iff.mp hs).2
  rcases Option.or_eq_some_iff.mp h with h | ⟨-, h⟩
  · exact htrimmed h
  · exact htrimmed h

section

variable {runtime : RuntimeConfig} {raw : String} (hruntime : config.runtimeConfig = .ok runtime)
  (hraw : rawTarget? config runtime = some raw)
include hruntime hraw

/-- The seed is that of the runtime configuration and of what the search found for the target. -/
theorem seedOf_of_found {t : String} (h : (search config fs.working).resolve fs raw = .ok t) :
    seedOf config args (.ok fs) = .ok ⟨some t, runtime.modules, runtime.factors, args⟩ := by
  unfold seedOf
  simp only [hruntime, hraw, h]

theorem seedOf_of_fault {f : TargetFault} (h : (search config fs.working).resolve fs raw = .error f) :
    seedOf config args (.ok fs) = .error (.target f) := by
  unfold seedOf
  simp only [hruntime, hraw, h]

end

/-- Once telemetry is set up, a host begins with its seed, or fails as that does. -/
theorem ofConfig_of_telemetry (ht : startup.telemetry config = .ok ()) (hp : startup.place = .ok fs) :
    ofConfig config args startup = (seedOf config args (.ok fs)).map (⟨config, ·⟩) := by
  unfold ofConfig
  rw [ht, hp]

/-- The target of the seed is a specifier. -/
theorem specifier_of_seedOf {place : Except String FileSystem} {seed : Seed}
    (h : seedOf config args place = .ok seed) : ∃ t, seed.target = some t ∧ Specifier t := by
  unfold seedOf at h
  split at h
  · cases h
  split at h
  · cases h
  split at h
  · cases h
  split at h
  · cases h
  · rename_i t hresolve
    cases h
    exact ⟨t, rfl, TargetSearch.specifier_of_resolve hresolve⟩

theorem seed_of_ofConfig (h : ofConfig config args startup = .ok settings) :
    ∃ t, settings.seed.target = some t ∧ Specifier t := by
  unfold ofConfig at h
  split at h
  · cases h
  · cases hseed : seedOf config args startup.place with
    | error f =>
      rw [hseed] at h
      cases h
    | ok seed =>
      rw [hseed] at h
      cases h
      exact specifier_of_seedOf hseed

/-- All candidates are absolute. -/
theorem isAbsolute_of_mem_candidates (config : Config) (fs : FileSystem) (target : String) :
    ∀ path ∈ (search config fs.working).candidates target, Path.isAbsolute path = true := by
  intro path hpath
  obtain ⟨root, hroot, rfl⟩ := List.mem_map.mp hpath
  refine Path.isAbsolute_join ?_ target
  rcases List.mem_cons.mp hroot with rfl | hroot
  · exact fs.absolute
  · obtain ⟨given, -, rfl⟩ := List.mem_map.mp hroot
    exact Path.isAbsolute_join fs.absolute given

/-- **The target of a host**: whatever the configuration, the process and its files are, the target of a seed is a
text that looks like a URL and has no white space around it, that every search takes as it is, and that the state of
the session begins with. No session that begins with the seed lacks its target, then or later, and the target stays
what it is whatever lines the session takes. Where the target is given as a relative path, it is the file URL of the
first of its candidates that is a file, in the working directory and then in the roots as they are seen from there;
where none of them is a file, the error lists them in this order. For these two telemetry must be set up and the
working directory be there, as the stages before the search. -/
theorem ofConfig_settles (config : Config) (args : List String) (startup : Startup) :
    (∀ settings, ofConfig config args startup = .ok settings → ∃ t,
      settings.seed.target = some t ∧ isUrlLike t = true ∧ Text.trim t = t ∧
      (∀ (s : TargetSearch) (other : FileSystem), s.resolve other t = .ok t) ∧
      (∃ state, SessionState.ofSeed? settings.seed = some state ∧ state.target = t) ∧
      ∀ {σ : Type} (l : Loader σ) (memory : σ) (rid : UInt32) (slot : Slot Transport),
        (Session.bootstrap settings.seed l memory rid slot).1 ≠ .error .missingTarget ∧
        ∀ s, (Session.bootstrap settings.seed l memory rid slot).1 = .ok s →
          (∀ o, (s.run o).1 ≠ .failed .missingTarget) ∧
          ∀ lines : List (UInt64 × String),
            (s.dispatcher.after (lines.map fun m => (m.1, Frame.decode m.2))).scene.state.target = t) ∧
    ∀ fs runtime raw, startup.telemetry config = .ok () → startup.place = .ok fs →
      config.runtimeConfig = .ok runtime → rawTarget? config runtime = some raw →
      isUrlLike raw = false → Path.isAbsolute raw = false →
      let places := fs.working :: config.searchRoots.map (Path.join fs.working)
      let tried := places.map fun place => Path.join place raw
      (∀ before path after, tried = before ++ path :: after → fs.isFile path = true →
        (∀ p ∈ before, fs.isFile p = false) → ∃ url, FileUrl.ofPath? path = some url ∧
          ofConfig config args startup = .ok ⟨config, ⟨some url.text, runtime.modules, runtime.factors, args⟩⟩) ∧
      ((∀ p ∈ tried, fs.isFile p = false) →
        ofConfig config args startup = .error (.target (.notFound raw tried))) := by
  refine ⟨fun settings hsettings => ?_, fun fs runtime raw htelemetry hplace hruntime hraw hurl hrelative => ?_⟩
  · obtain ⟨t, ht, hspecifier⟩ := seed_of_ofConfig hsettings
    have hstate := SessionState.ofSeed?_of_specifier ht hspecifier
    refine ⟨t, ht, hspecifier.urlLike, hspecifier.trimmed, TargetSearch.resolve_specifier hspecifier,
      ⟨_, hstate, rfl⟩,
      fun l memory rid slot => ⟨Session.bootstrap_ne_missingTarget hstate, fun s hs => ⟨?_, ?_⟩⟩⟩
    · exact fun o hrun => absurd (Session.late_of_run hrun) (by decide)
    · exact Session.target_of_bootstrap ht hspecifier.trimmed hs
  · intro places tried
    have htried : (search config fs.working).candidates raw = tried := rfl
    have htrim := trimmed?_of_rawTarget? hraw
    refine ⟨fun before path after hplaces hfile hbefore => ?_, fun hnone => ?_⟩
    · have hpath : path ∈ tried := by
        rw [hplaces]
        exact List.mem_append_right before List.mem_cons_self
      obtain ⟨url, hof⟩ := FileUrl.exists_ofPath? (isAbsolute_of_mem_candidates config fs raw path hpath)
      have hfound := TargetSearch.resolve_of_first htrim hurl hrelative (htried.trans hplaces) hfile hbefore hof
      refine ⟨url, hof, ?_⟩
      rw [ofConfig_of_telemetry htelemetry hplace, seedOf_of_found hruntime hraw hfound]
      rfl
    · have hfault := TargetSearch.resolve_of_none htrim hurl hrelative (htried ▸ hnone)
      rw [ofConfig_of_telemetry htelemetry hplace, seedOf_of_fault hruntime hraw hfault]
      rfl

/-- A file below a relative root goes before one below an absolute root after it, and the working directory is passed
over. -/
theorem ofConfig_settles_root :
    let config : Config := { Config.empty with target := some " main.ts ", roots := some "lib , ,/opt" }
    let fs : FileSystem := ⟨"/srv", by decide, fun p => ["/srv/lib/main.ts", "/opt/main.ts"].contains p⟩
    let settings : HostSettings := ⟨config, ⟨some "file:///srv/lib/main.ts", [], [], ["v"]⟩⟩
    ofConfig config ["v"] (.sound fs) = .ok settings ∧
      ∀ (s : TargetSearch) (other : FileSystem), s.resolve other "file:///srv/lib/main.ts" =
        .ok "file:///srv/lib/main.ts" := by
  intro config fs settings
  obtain ⟨hseed, hrelative⟩ := ofConfig_settles config ["v"] (.sound fs)
  obtain ⟨hfirst, -⟩ := hrelative fs .empty "main.ts" rfl rfl rfl (by decide +kernel) (by decide +kernel)
    (by decide +kernel)
  obtain ⟨url, hurl, hsettings⟩ := hfirst ["/srv/main.ts"] "/srv/lib/main.ts" ["/opt/main.ts"] (by decide +kernel)
    (by decide +kernel) (by decide +kernel)
  have htext : FileUrl.ofPath? "/srv/lib/main.ts" = some ⟨[], "/srv/lib/main.ts".toList, none, none⟩ := by
    decide +kernel
  obtain rfl : ⟨[], "/srv/lib/main.ts".toList, none, none⟩ = url := Option.some.inj (htext.symm.trans hurl)
  obtain ⟨t, ht, -, -, hresolve, -⟩ := hseed _ hsettings
  cases ht
  exact ⟨hsettings, hresolve⟩

end HostSettings

end ScriptLink
