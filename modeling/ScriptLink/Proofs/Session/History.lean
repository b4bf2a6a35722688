import ScriptLink.Proofs.Frame.Portable
import ScriptLink.Proofs.Module.Search
import ScriptLink.Proofs.Session.Replies
import ScriptLink.Proofs.Text.Trim

/-!
# ScriptLink.Proofs.Session.History — the state of a session is what its frames made of it

* `Loader.granted?`, `Frame.appended`, `Frame.replacement?` and `Frame.farewell?` read off a frame what it
  adds to the modules, to the factors, to the arguments and to the phase; the first also asks the importer, with
  the memory that it has when the frame comes. `Dispatcher.granted` is what it says of the frames of a history.
* `Told`: the state of a session is what these say of its seed and of the frames it took. It holds at the
  beginning (`told_bootstrap`), and one more line keeps it (`Told.step`), whatever handlers do.
* `state_after_lines` is the closed form of the state after any lines.
-/

namespace ScriptLink

/-! ## What frames say -/

namespace Value

/-- The texts in a value: those among the items of an array, or the one that the value is. -/
def texts : Value → List String
  | .arr items => items.filterMap asString?
  | .str text => [text]
  | _ => []

/-- Only an array of nothing but texts is a list of texts. -/
theorem asStrings?_arr (items : List Value) : (arr items).asStrings? =
    if items.all fun v => v.asString?.isSome then some (items.filterMap asString?) else none := by
  show items.mapM asString? = _
  induction items with
  | nil => rfl
  | cons v rest ih =>
    rw [List.mapM_cons, ih]
    cases hv : v.asString? with
    | none => simp [hv]
    | some text =>
      by_cases hrest : (rest.all fun v => v.asString?.isSome) = true
      · simp [hv, hrest]
      · simp [hv, hrest]

theorem bind_present?_present? (v : Option Value) :
    (v.bind present?).bind present? = v.bind present? := by
  cases v with
  | none => rfl
  | some v => cases v <;> rfl

end Value

namespace Frame

/-- The factors that a frame appends: the texts of its values, or else of its value; `null` counts as
absent. -/
def appended : Frame → List String
  | .factors _ values value => ((values.bind Value.present?).or value).elim [] Value.texts
  | _ => []

/-- A member that is `null` does not get into a decoded frame. -/
theorem values_decode {line : String} {id values value : Option Value}
    (h : decode line = .factors id values value) : values.bind Value.present? = values := by
  obtain ⟨v, -, hmembers⟩ := of_decode h ⟨nofun, nofun⟩
  cases hmembers
  exact Value.bind_present?_present? _

/-- The arguments that a frame puts in place of those before: an array of nothing but texts. -/
def replacement? : Frame → Option (List String)
  | .arguments _ (some (.arr items)) =>
    if items.all fun v => v.asString?.isSome then some (items.filterMap Value.asString?) else none
  | _ => none

/-- The reason for which a frame ends the session. -/
def farewell? : Frame → Option String
  | .shutdown reason => some (Value.plainOr Dispatcher.defaultReason reason)
  | _ => none

end Frame

namespace Loader

/-- The specifier or one of its fallback candidates can be imported. -/
def offers (l : Loader σ) (specifier : String) (memory : σ) : Bool :=
  (l.answers (l.plan specifier) memory).any Except.isOk

/-- The module that a frame asks for, if it names one that can be imported. -/
def granted? (l : Loader σ) (memory : σ) : Frame → Option String
  | .load _ (some (.str name)) => if !Text.blank name && l.offers name memory then some name else none
  | _ => none

/-- A search finds a module just if one of its attempts can be imported. -/
theorem isOk_search (l : Loader σ) (specifier : String) (memory : σ) :
    (l.search specifier memory).found.isOk = l.offers specifier memory := by
  cases hf : (l.search specifier memory).found with
  | ok m =>
    have hfound := l.found_eq_ok_iff.mp hf
    exact (List.any_eq_true.mpr ⟨_, List.mem_of_find?_eq_some hfound, List.find?_some hfound⟩).symm
  | error e =>
    have hnone := (l.found_eq_error_iff.mp hf).1
    exact (List.any_eq_false.mpr fun answer ha => Bool.eq_false_iff.mp (hnone answer ha)).symm

/-- Without memory, what a frame is granted is the same at any time. -/
theorem granted?_of_find {l : Loader σ} {find : String → Except ImportFault (ScriptModule σ)}
    (h : l.importer = .ofFind find) (memory other : σ) (f : Frame) : l.granted? memory f = l.granted? other f := by
  have hoffers (name : String) : l.offers name memory = l.offers name other := by
    rw [offers, offers, answers_of_find h, answers_of_find h]
  unfold granted?
  simp only [hoffers]

end Loader

/-! ## Modules -/

/-- What loading modules with the specifiers `names` makes of a state. -/
structure SessionState.Loaded (names : List String) (s after : SessionState) : Prop where
  target : after.target = s.target
  modules : ∀ earlier : List String, s.modules = earlier.eraseDups →
    after.modules = (earlier ++ names).eraseDups
  factors : after.factors = s.factors
  args : after.args = s.args

namespace SessionState

theorem Loaded.refl (s : SessionState) : Loaded [] s s :=
  ⟨rfl, fun earlier h => by rw [List.append_nil]; exact h, rfl, rfl⟩

theorem Loaded.trans {names more : List String} {s t u : SessionState} (h : Loaded names s t)
    (k : Loaded more t u) : Loaded (names ++ more) s u where
  target := k.target.trans h.target
  modules earlier he := by
    rw [← List.append_assoc]
    exact k.modules _ (h.modules earlier he)
  factors := k.factors.trans h.factors
  args := k.args.trans h.args

/-- A specifier is added behind the others unless it is among them. -/
theorem loaded_add? (specifier : String) (s : SessionState) :
    Loaded [specifier] s ((s.add? specifier).getD s) := by
  have hdups (earlier : List String) : (earlier ++ [specifier]).eraseDups =
      earlier.eraseDups ++ if specifier ∈ earlier then [] else [specifier] := by
    rw [List.eraseDups_append]
    by_cases hmem : specifier ∈ earlier
    · simp [List.removeAll, hmem]
    · simp [List.removeAll, hmem, List.eraseDups_cons]
  unfold add? has
  by_cases hin : specifier ∈ s.modules
  · have hhas : s.modules.contains specifier = true := by simp [hin]
    rw [if_pos hhas]
    refine ⟨rfl, fun earlier he => ?_, rfl, rfl⟩
    have hmem : specifier ∈ earlier := by rwa [he, List.mem_eraseDups] at hin
    rw [hdups, if_pos hmem, List.append_nil]
    exact he
  · have hhas : ¬s.modules.contains specifier = true := by simp [hin]
    rw [if_neg hhas]
    refine ⟨rfl, fun earlier he => ?_, rfl, rfl⟩
    have hmem : specifier ∉ earlier := by rwa [he, List.mem_eraseDups] at hin
    rw [hdups, if_neg hmem, ← he]
    rfl

end SessionState

theorem Scene.adopt_state (specifier : String) (m : ScriptModule σ) (s : Scene σ) :
    (s.adopt specifier m).state = (s.state.add? specifier).getD s.state := by
  unfold adopt
  cases s.state.add? specifier with
  | none => rfl
  | some state =>
    by_cases ht : specifier = state.target
    · simp [ht]
    · simp [ht, install]

open SessionState (Loaded)

namespace Loader

/-- Loading one module adds it, if it can be imported; the answer tells whether it can. -/
theorem loaded_loadLive (l : Loader σ) (specifier : String) (s : Scene σ) :
    (l.loadLive specifier s).1.isOk = l.offers specifier s.trail.memory ∧
    Loaded (if l.offers specifier s.trail.memory then [specifier] else []) s.state
      (l.loadLive specifier s).2.state := by
  rw [← isOk_search]
  unfold loadLive
  dsimp only
  cases (l.search specifier s.trail.memory).found with
  | error e => exact ⟨rfl, .refl s.state⟩
  | ok m =>
    refine ⟨rfl, ?_⟩
    show Loaded [specifier] s.state (Scene.adopt specifier m _).state
    rw [Scene.adopt_state]
    exact SessionState.loaded_add? specifier s.state

/-- Modules that were all loaded are added in turn. -/
theorem loaded_preload (l : Loader σ) {names : List String} {s : Scene σ}
    (h : (l.preload names s).1 = .ok ()) : Loaded names s.state (l.preload names s).2.state := by
  induction names generalizing s with
  | nil => exact .refl _
  | cons name rest ih =>
    obtain ⟨hok, hloaded⟩ := l.loaded_loadLive name s
    unfold preload at h ⊢
    cases hl : l.loadLive name s with
    | mk answer next =>
      rw [hl] at h hok hloaded
      cases answer with
      | error e => cases h
      | ok u =>
        have hoffers : l.offers name s.trail.memory = true := hok.symm
        rw [if_pos hoffers] at hloaded
        exact hloaded.trans (ih h)

end Loader

/-! ## Handlers -/

namespace Dispatcher

/-- The dispatcher `next` is where `d` is: with the same state, in the same phase. -/
structure Still (d next : Dispatcher σ) : Prop where
  loader : next.loader = d.loader
  state : next.scene.state = d.scene.state
  phase : next.phase = d.phase

theorem invoke_still (h : Handler σ ρ α) (request : ρ) (d : Dispatcher σ) :
    Still d (d.invoke h request).2 :=
  ⟨rfl, rfl, rfl⟩

theorem onMessage_still (m : Delivery) (d : Dispatcher σ) : Still d (d.onMessage m).next := by
  have ha : Still d (d.answerMessage m).2 := by
    unfold answerMessage
    split
    · exact d.invoke_still _ _
    · split
      · exact d.invoke_still _ _
      · exact ⟨rfl, rfl, rfl⟩
  rw [onMessage_next]
  exact ha

theorem onReply_still (r : HostReply) (d : Dispatcher σ) : Still d (d.onReply r).next := by
  unfold onReply
  dsimp only
  split <;> exact ⟨rfl, rfl, rfl⟩

/-- Factors are there before the handler hears of them, and stay if it fails. -/
theorem onFactors_still (id values value : Option Value) (d : Dispatcher σ) :
    Still { d with scene.state := d.scene.state.extend (contributed values value) }
      (d.onFactors id values value).next := by
  unfold onFactors
  dsimp only
  split
  · split <;> exact ⟨rfl, rfl, rfl⟩
  · exact ⟨rfl, rfl, rfl⟩

/-! ## Lines -/

/-- What a decoded frame appends is what the session takes from it. -/
theorem contributed_decode {line : String} {id values value : Option Value}
    (h : Frame.decode line = .factors id values value) :
    contributed values value = (Frame.factors id values value).appended := by
  rw [Frame.appended, Frame.values_decode h, contributed]
  cases values.or value with
  | none => rfl
  | some v => cases v <;> rfl

/-- The dispatcher `next` is what the frame makes of `d`. -/
structure Marked (f : Frame) (d next : Dispatcher σ) : Prop where
  loader : next.loader = d.loader
  target : next.scene.state.target = d.scene.state.target
  modules : ∀ earlier : List String, d.scene.state.modules = earlier.eraseDups →
    next.scene.state.modules = (earlier ++ (d.loader.granted? d.scene.trail.memory f).toList).eraseDups
  factors : next.scene.state.factors = d.scene.state.factors ++ f.appended
  args : next.scene.state.args = f.replacement?.getD d.scene.state.args
  phase : next.phase = f.farewell?.elim d.phase .shuttingDown

/-- A frame that says nothing leaves the state and the phase as they are. -/
theorem Marked.of_still {f : Frame} {d next : Dispatcher σ} (h : Still d next)
    (hgranted : d.loader.granted? d.scene.trail.memory f = none) (happended : f.appended = [])
    (hreplacement : f.replacement? = none) (hfarewell : f.farewell? = none) :
    Marked f d next := by
  refine ⟨h.loader, by rw [h.state], ?_, ?_, ?_, ?_⟩
  · intro earlier he
    simp [h.state, he, hgranted]
  · simp [h.state, happended]
  · simp [h.state, hreplacement]
  · simp [h.phase, hfarewell]

theorem marked_onLoad (id specifier : Option Value) (d : Dispatcher σ) :
    Marked (.load id specifier) d (d.onLoad id specifier).next := by
  match specifier with
  | some (.str name) =>
    have hg : d.loader.granted? d.scene.trail.memory (.load id (some (.str name))) =
        if !Text.blank name && d.loader.offers name d.scene.trail.memory then some name else none := rfl
    unfold onLoad
    by_cases hblank : Text.blank name = true
    · have hg : d.loader.granted? d.scene.trail.memory (.load id (some (.str name))) = none := by
        simp [hg, hblank]
      simp only [hblank, if_true]
      exact .of_still ⟨rfl, rfl, rfl⟩ hg rfl rfl rfl
    · obtain ⟨-, hl⟩ := d.loader.loaded_loadLive name d.scene
      have hnames : (d.loader.granted? d.scene.trail.memory (.load id (some (.str name)))).toList =
          if d.loader.offers name d.scene.trail.memory then [name] else [] := by
        by_cases ho : d.loader.offers name d.scene.trail.memory = true <;> simp [hg, hblank, ho]
      rw [← hnames] at hl
      have hnext : Marked (.load id (some (.str name))) d
          { d with scene := (d.loader.loadLive name d.scene).2 } :=
        ⟨rfl, hl.target, hl.modules, hl.factors.trans (List.append_nil _).symm, hl.args, rfl⟩
      simp only [hblank, Bool.false_eq_true, if_false]
      split <;> exact hnext
  | none | some .null | some (.bool _) | some (.num _) | some (.arr _) | some (.obj _) =>
    exact .of_still ⟨rfl, rfl, rfl⟩ rfl rfl rfl rfl

theorem marked_onFactors {id values value : Option Value}
    (hc : contributed values value = (Frame.factors id values value).appended) (d : Dispatcher σ) :
    Marked (.factors id values value) d (d.onFactors id values value).next := by
  obtain ⟨hloader, hstate, hphase⟩ := d.onFactors_still id values value
  refine ⟨hloader, ?_, ?_, ?_, ?_, hphase⟩ <;> rw [hstate]
  · rfl
  · intro earlier he
    exact he.trans (congrArg _ (List.append_nil _).symm)
  · rw [← hc]
    rfl
  · rfl

/-- Arguments replace those before just if they are taken. -/
theorem replacement?_arguments (id args : Option Value) :
    (Frame.arguments id args).replacement? = args.bind Value.asStrings? := by
  match args with
  | some (.arr items) => exact (Value.asStrings?_arr items).symm
  | none | some .null | some (.bool _) | some (.num _) | some (.str _) | some (.obj _) => rfl

theorem marked_onArguments (id args : Option Value) (d : Dispatcher σ) :
    Marked (.arguments id args) d (d.onArguments id args).next := by
  have hreplacement := replacement?_arguments id args
  unfold onArguments
  cases hlist : args.bind Value.asStrings? with
  | none => exact .of_still ⟨rfl, rfl, rfl⟩ rfl rfl (hreplacement.trans hlist) rfl
  | some list =>
    rw [hlist] at hreplacement
    refine ⟨rfl, rfl, fun earlier he => ?_, (List.append_nil _).symm, ?_, rfl⟩
    · exact he.trans (congrArg _ (List.append_nil _).symm)
    · rw [hreplacement]
      rfl

theorem marked_onShutdown (reason : Option Value) (d : Dispatcher σ) :
    Marked (.shutdown reason) d (d.onShutdown reason).next := by
  refine ⟨rfl, rfl, fun earlier he => ?_, (List.append_nil _).symm, rfl, rfl⟩
  exact he.trans (congrArg _ (List.append_nil _).symm)

/-- A line makes of a session what its frame says, whatever handlers make of it. -/
theorem marked_dispatch (now : UInt64) (line : String) (d : Dispatcher σ) :
    Marked (Frame.decode line) d (d.dispatch now (Frame.decode line)).next := by
  have hcontributed := @contributed_decode line
  generalize Frame.decode line = f at hcontributed ⊢
  cases f with
  | message id payload | externalMessage id payload =>
    exact .of_still (d.onMessage_still _) rfl rfl rfl rfl
  | hostResult id result | hostError id why => exact .of_still (d.onReply_still _) rfl rfl rfl rfl
  | load id specifier => exact d.marked_onLoad id specifier
  | factors id values value => exact marked_onFactors (hcontributed rfl) d
  | arguments id args => exact d.marked_onArguments id args
  | shutdown reason => exact d.marked_onShutdown reason
  | _ => exact .of_still ⟨rfl, rfl, rfl⟩ rfl rfl rfl rfl

/-! ## Histories -/

/-- The modules that the frames of a history ask for and that can be imported when they do, oldest first. -/
def granted : List (UInt64 × Frame) → Dispatcher σ → List String
  | [], _ => []
  | (now, f) :: rest, d =>
    (d.loader.granted? d.scene.trail.memory f).toList ++ granted rest (d.dispatch now f).next

/-- The dispatcher is where its loader and its seed began and where the frames brought it, by which the modules
`names` were granted. -/
structure Told (l : Loader σ) (seed : Seed) (target : String) (frames : List Frame) (names : List String)
    (d : Dispatcher σ) : Prop where
  loader : d.loader = l
  target : d.scene.state.target = target
  modules : d.scene.state.modules = (seed.modules ++ names).eraseDups
  factors : d.scene.state.factors = seed.factors ++ frames.flatMap Frame.appended
  args : d.scene.state.args = (frames.filterMap Frame.replacement?).getLast?.getD seed.args
  phase : d.phase = (frames.filterMap Frame.farewell?).getLast?.elim .running .shuttingDown

/-- A session begins with what its seed says. -/
theorem told_bootstrap {seed : Seed} {l : Loader σ} {memory : σ} {start : Dispatcher σ}
    (h : (bootstrap seed l memory).1 = .ok start) :
    ∃ target, seed.target.map Text.trim = some target ∧ Told l seed target [] [] start := by
  obtain ⟨state, t, hs, -, hload, rfl⟩ := of_bootstrap h
  obtain ⟨target, ht, rfl⟩ := Option.map_eq_some_iff.mp hs
  obtain ⟨raw, hraw, htrim⟩ := Option.bind_eq_some_iff.mp ht
  have htarget : Text.trim raw = target := (Text.trimmed?_eq_some_iff.mp htrim).1.symm
  refine ⟨target, by rw [hraw, Option.map_some, htarget], ?_⟩
  obtain ⟨htarget, hmodules, hfactors, hargs⟩ := Loader.loaded_preload l hload
  refine ⟨rfl, htarget, ?_, ?_, hargs, rfl⟩
  · rw [List.append_nil]
    exact hmodules [] rfl
  · rw [List.flatMap_nil, List.append_nil]
    exact hfactors

/-- The last of several texts that frames give is that of the last frame, if it gives one. -/
theorem getLast?_filterMap_concat (give : Frame → Option α) (frames : List Frame) (f : Frame) :
    ((frames ++ [f]).filterMap give).getLast? =
      (give f).or (frames.filterMap give).getLast? := by
  cases hf : give f <;> simp [hf, List.getLast?_append]

section

variable {l : Loader σ} {seed : Seed} {target : String} {frames : List Frame} {names : List String}
  {d : Dispatcher σ}

theorem Told.step {next : Dispatcher σ} {f : Frame} (h : Told l seed target frames names d)
    (hm : Marked f d next) : Told l seed target (frames ++ [f])
      (names ++ (d.loader.granted? d.scene.trail.memory f).toList) next where
  loader := hm.loader.trans h.loader
  target := hm.target.trans h.target
  modules := by rw [hm.modules _ h.modules, List.append_assoc]
  factors := by
    rw [hm.factors, h.factors, List.flatMap_append, List.append_assoc, List.flatMap_singleton]
  args := by
    rw [hm.args, h.args, getLast?_filterMap_concat]
    cases f.replacement? <;> rfl
  phase := by
    rw [hm.phase, h.phase, getLast?_filterMap_concat]
    cases f.farewell? <;> rfl

/-- What is told of a session is told of it after any lines. -/
theorem Told.after (h : Told l seed target frames names d) (lines : List (UInt64 × String)) :
    let history := lines.map fun m => (m.1, Frame.decode m.2)
    Told l seed target (frames ++ history.map Prod.snd) (names ++ d.granted history) (d.after history) := by
  induction lines generalizing frames names d with
  | nil =>
    show Told l seed target (frames ++ []) (names ++ []) d
    rwa [List.append_nil, List.append_nil]
  | cons m rest ih =>
    have hrest := ih (h.step (d.marked_dispatch m.1 m.2))
    dsimp only at hrest
    rw [List.append_assoc, List.append_assoc] at hrest
    exact hrest

/-- Without memory, what the frames of a history are granted is what each of them is granted. -/
theorem granted_of_find {find : String → Except ImportFault (ScriptModule σ)}
    (hl : d.loader.importer = .ofFind find) (history : List (UInt64 × Frame)) (memory : σ) :
    d.granted history = (history.map Prod.snd).filterMap (d.loader.granted? memory) := by
  induction history generalizing d with
  | nil => rfl
  | cons m rest ih =>
    obtain ⟨now, f⟩ := m
    have hloader := d.dispatch_loader now f
    rw [granted, ih (hloader ▸ hl), hloader, Loader.granted?_of_find hl _ memory, List.map_cons]
    cases hf : d.loader.granted? memory f <;> simp [hf]

end

/-- **State of a session**: whatever lines a session took since it began, and whatever handlers and the importer
made of them, its target is that of the seed without white space around it; its modules are those of the seed and
those that frames asked for and that could be imported when they did, each where it came first; its factors are
those of the seed and all that frames appended; its arguments are those that the last frame gave, or those of the
seed; and it runs until a shutdown, and then has the reason of the last. If the importer remembers nothing, what
can be imported once can be imported at any time. -/
theorem state_after_lines (seed : Seed) (l : Loader σ) (memory : σ) {start : Dispatcher σ}
    (h : (bootstrap seed l memory).1 = .ok start) (lines : List (UInt64 × String)) :
    let history := lines.map fun m => (m.1, Frame.decode m.2)
    let frames := history.map Prod.snd
    let d := start.after history
    seed.target.map Text.trim = some d.scene.state.target ∧
    d.scene.state.modules = (seed.modules ++ start.granted history).eraseDups ∧
    d.scene.state.factors = seed.factors ++ frames.flatMap Frame.appended ∧
    d.scene.state.args = (frames.filterMap Frame.replacement?).getLast?.getD seed.args ∧
    d.phase = (frames.filterMap Frame.farewell?).getLast?.elim .running .shuttingDown ∧
    ∀ find, l.importer = .ofFind find → ∀ any, start.granted history = frames.filterMap (l.granted? any) := by
  intro history frames d
  obtain ⟨target, htarget, htold⟩ := told_bootstrap h
  have hd : Told l seed target ([] ++ frames) ([] ++ start.granted history) d := htold.after lines
  rw [List.nil_append, List.nil_append] at hd
  refine ⟨?_, hd.modules, hd.factors, hd.args, hd.phase, fun find hfind any => ?_⟩
  · rw [hd.target]
    exact htarget
  · rw [← htold.loader] at hfind ⊢
    exact granted_of_find hfind history any

/-- Modules are loaded once and only if they are there when they are asked for, factors are kept twice, the
arguments are replaced, and the reason of the last shutdown counts. -/
theorem state_after_lines_shutdown :
    let importer : Importer (List String) := fun s asked =>
      (if s = "gone" ∨ s = "late" ∧ s ∉ asked then .error (.notFound s) else .ok {}, s :: asked)
    let l : Loader (List String) := ⟨importer, []⟩
    let seed : Seed := ⟨some " a ", ["m", "m"], ["f"], ["v"]⟩
    let frames : List Frame := [.load none (some (.str "late")), .load none (some (.str "n")),
      .load none (some (.str "gone")), .load none (some (.str "late")), .load none (some (.str "m")),
      .factors none none (some (.str "f")), .arguments none (some (.strings ["w"])), .shutdownFor "x",
      .shutdown none]
    let lines := frames.map fun f => ((0 : UInt64), f.encode)
    ∃ start, (bootstrap seed l []).1 = .ok start ∧
      let d := start.after (lines.map fun m => (m.1, Frame.decode m.2))
      d.scene.state.target = "a" ∧ d.scene.state.modules = ["m", "n", "late"] ∧
      d.scene.state.factors = ["f", "f"] ∧ d.scene.state.args = ["w"] ∧
      d.phase = .shuttingDown "requested" := by
  intro importer l seed frames lines
  obtain ⟨start, h, hgranted⟩ : ∃ start, (bootstrap seed l []).1 = .ok start ∧
      start.granted (frames.map fun f => (0, f)) = ["n", "late", "m"] := ⟨_, rfl, by decide +kernel⟩
  obtain ⟨htarget, hmodules, hfactors, hargs, hphase, -⟩ := state_after_lines seed l [] h lines
  have hdecode : ∀ f ∈ frames, Frame.decode f.encode = f := by
    have hportable : ∀ f ∈ frames, f.Portable := by
      simp [frames, Frame.Portable, Frame.body, Frame.nullable, Frame.omitted, Frame.shutdownFor,
        or_imp, forall_and]
    have hkind : ∀ f ∈ frames, f.kind ≠ .text := by decide
    have hsettled : ∀ f ∈ frames, f.canonical.settled = f := by
      simp only [frames, List.forall_mem_cons]
      exact ⟨rfl, rfl, rfl, rfl, rfl, rfl, rfl, rfl, rfl, List.forall_mem_nil _⟩
    intro f hf
    rw [Frame.decode_encode_of_portable (hkind f hf) (hportable f hf), hsettled f hf]
  have hlines : (lines.map fun m => (m.1, Frame.decode m.2)) = frames.map fun f => (0, f) := by
    rw [List.map_map]
    exact List.map_congr_left fun f hf => congrArg (Prod.mk 0) (hdecode f hf)
  have hframes : ((lines.map fun m => (m.1, Frame.decode m.2)).map Prod.snd) = frames := by
    rw [hlines, List.map_map]
    exact frames.map_id'
  have htrim : some "a" = seed.target.map Text.trim := by decide +kernel
  rw [← hlines] at hgranted
  rw [hgranted] at hmodules
  rw [hframes] at hfactors hargs hphase
  exact ⟨start, h, (Option.some.inj (htrim.trans htarget)).symm, hmodules.trans (by decide +kernel),
    hfactors.trans (by decide +kernel), hargs.trans (by decide +kernel),
    hphase.trans (by decide +kernel)⟩

end Dispatcher

end ScriptLink
