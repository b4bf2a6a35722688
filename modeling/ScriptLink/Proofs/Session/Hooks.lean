import Mathlib.Data.List.Nodup
import ScriptLink.Proofs.Module.Noted
import ScriptLink.Proofs.Session.Handlers

/-!
# ScriptLink.Proofs.Session.Hooks — how often a module is installed

* `Dispatcher.noted l d` is the dispatcher `d`, whose loader is that of `l`, with modules that note their
  installation. `bootstrap_noted` and `dispatch_noted`: a session with notes goes the way it goes without.
* `hooks_after`: the notes of a session are the names that its installed specifiers reach. So a module is
  installed as often as specifiers reach it, and each module once just if no two reach the same.
-/

namespace ScriptLink

/-- The dispatcher, with the notes that its state tells of. -/
def Dispatcher.noted (l : Finder σ) (d : Dispatcher σ) : Dispatcher (WithNotes σ) :=
  ⟨l.noted.loader, d.exports.noted, d.scene.noted l, d.calls, d.phase⟩

/-- The response, with the notes that the state it leaves tells of. -/
def Response.noted (l : Finder σ) (r : Response σ) : Response (WithNotes σ) :=
  ⟨r.next.noted l, r.replies, r.verdict⟩

namespace Dispatcher

/-! ## Frames -/

section

variable (l : Finder σ) (d : Dispatcher σ)

theorem messageHandler?_noted : (d.noted l).messageHandler? = d.messageHandler?.map Handler.noted :=
  Option.map_or.symm

theorem replyHandler?_noted : (d.noted l).replyHandler? = d.replyHandler?.map Handler.noted :=
  Option.map_or.symm

theorem factorHandler?_noted : (d.noted l).factorHandler? = d.factorHandler?.map Handler.noted :=
  Option.map_or.symm

theorem invoke_noted (h : Handler σ ρ α) (request : ρ) :
    (d.noted l).invoke h.noted request = ((d.invoke h request).1, (d.invoke h request).2.noted l) :=
  rfl

theorem answerMessage_noted (m : Delivery) :
    (d.noted l).answerMessage m = ((d.answerMessage m).1, (d.answerMessage m).2.noted l) := by
  have hrequest : (d.noted l).scene.globals.request = d.scene.globals.request.map Handler.noted := rfl
  unfold answerMessage
  rw [messageHandler?_noted, hrequest]
  cases d.messageHandler? with
  | some h => exact d.invoke_noted l h m
  | none =>
    cases d.scene.globals.request with
    | some h => exact d.invoke_noted l h m.payload.plain
    | none => rfl

theorem onMessage_noted (m : Delivery) : (d.noted l).onMessage m = (d.onMessage m).noted l := by
  unfold onMessage
  rw [answerMessage_noted]
  rcases d.answerMessage m with ⟨⟨calls, result⟩, next⟩
  cases result <;> rfl

theorem onLoad_noted {l : Finder σ} {d : Dispatcher σ} (hl : d.loader = l.loader) (id specifier : Option Value) :
    (d.noted l).onLoad id specifier = (d.onLoad id specifier).noted l := by
  unfold onLoad
  cases specifier with
  | none => rfl
  | some v =>
    cases v with
    | str text =>
      dsimp only
      split
      · rfl
      · have hload : (d.noted l).loader.loadLive text (d.noted l).scene = _ := l.loadLive_noted d.scene text
        rw [hload, hl]
        rcases l.loader.loadLive text d.scene with ⟨loaded, scene⟩
        cases loaded <;> rfl
    | _ => rfl

theorem onFactors_noted (id values value : Option Value) :
    (d.noted l).onFactors id values value = (d.onFactors id values value).noted l := by
  have hplain : { d with scene.state := d.scene.state.extend (contributed values value) }.factorHandler? =
      d.factorHandler? := rfl
  have hnoted : { d.noted l with
      scene.state := (d.noted l).scene.state.extend (contributed values value) }.factorHandler? =
        d.factorHandler?.map Handler.noted := d.factorHandler?_noted l
  unfold onFactors
  dsimp only
  rw [hplain, hnoted]
  cases d.factorHandler? with
  | none => rfl
  | some h =>
    dsimp only [Option.map_some]
    split <;> rfl

theorem onArguments_noted (id args : Option Value) :
    (d.noted l).onArguments id args = (d.onArguments id args).noted l := by
  unfold onArguments
  cases args.bind Value.asStrings? <;> rfl

theorem onReply_noted (r : HostReply) : (d.noted l).onReply r = (d.onReply r).noted l := by
  rw [onReply_eq_notifyIf, onReply_eq_notifyIf, replyHandler?_noted]
  cases d.replyHandler? <;> rfl

/-- With notes, a frame brings about what it does without. -/
theorem dispatch_noted {l : Finder σ} {d : Dispatcher σ} (hl : d.loader = l.loader) (now : UInt64) (f : Frame) :
    (d.noted l).dispatch now f = (d.dispatch now f).noted l := by
  cases f with
  | message id payload | externalMessage id payload => exact d.onMessage_noted l _
  | load id specifier => exact onLoad_noted hl id specifier
  | factors id values value => exact d.onFactors_noted l id values value
  | arguments id args => exact d.onArguments_noted l id args
  | hostResult id result | hostError id why => exact d.onReply_noted l _
  | _ => rfl

theorem after_noted {l : Finder σ} {d : Dispatcher σ} (hl : d.loader = l.loader)
    (frames : List (UInt64 × Frame)) : (d.noted l).after frames = (d.after frames).noted l := by
  induction frames generalizing d with
  | nil => rfl
  | cons m rest ih =>
    show (((d.noted l).dispatch m.1 m.2).next).after rest = _
    rw [dispatch_noted hl]
    exact ih ((d.dispatch_loader m.1 m.2).trans hl)

end

/-! ## Sessions -/

/-- A session with notes begins as it begins without. -/
theorem bootstrap_noted (seed : Seed) (l : Finder σ) (memory : σ) :
    (bootstrap seed l.noted.loader (memory, [])).1 =
      (bootstrap seed l.loader memory).1.map (Dispatcher.noted l) := by
  unfold bootstrap
  cases hs : SessionState.ofSeed? seed with
  | none => rfl
  | some state =>
    obtain ⟨target, -, rfl⟩ := Option.map_eq_some_iff.mp hs
    have hsearch := l.search_noted target memory []
    dsimp only at hsearch ⊢
    rw [hsearch]
    generalize l.loader.search target memory = search
    cases search.found with
    | error e => rfl
    | ok t =>
      -- the notes of the target alone are those that its state tells of
      have htarget : (ofTarget l.noted.loader ⟨target, [], seed.factors, seed.args⟩
          ⟨search.attempts, (search.memory, [])⟩ (t.noted (l.reach target))).scene =
          (ofTarget l.loader ⟨target, [], seed.factors, seed.args⟩
            ⟨search.attempts, search.memory⟩ t).scene.noted l := by
        unfold ofTarget Scene.install Scene.noted
        dsimp only
        rw [Globals.noted_above]
        rfl
      dsimp only [Except.map]
      rw [htarget, Finder.preload_noted]
      rcases l.loader.preload seed.modules _ with ⟨loaded, scene⟩
      cases loaded <;> rfl

/-- **Installation of modules**, if the importer is a function of the specifier: a session whose modules note their
installation goes the way it goes without notes, whatever frames it takes, and then its notes are, in turn, the
names that its installed specifiers reach, each specifier once. So a module is installed as often as there are
specifiers that reach it, and no module is installed twice just if no two of them reach the same; without other
directories to look in that is so. -/
theorem hooks_after (seed : Seed) (l : Finder σ) (memory : σ) {start : Dispatcher σ}
    (h : (bootstrap seed l.loader memory).1 = .ok start) (frames : List (UInt64 × Frame)) :
    (bootstrap seed l.noted.loader (memory, [])).1 = .ok (start.noted l) ∧
    (start.noted l).after frames = (start.after frames).noted l ∧
    let installed := (start.after frames).scene.state.installed
    let notes := ((start.noted l).after frames).scene.trail.memory.2
    notes = installed.map l.reach ∧ installed.Nodup ∧
    (∀ specifier ∈ installed, ∃ m, l.module? specifier = some m ∧
      l.find (l.reach specifier) = .ok m) ∧
    (∀ name, notes.count name = installed.countP fun specifier => l.reach specifier == name) ∧
    ((∀ name, notes.count name ≤ 1) ↔
      ∀ a ∈ installed, ∀ b ∈ installed, l.reach a = l.reach b → a = b) ∧
    (l.segments = [] → ∀ name, notes.count name ≤ 1) := by
  obtain ⟨t, ht, hbuilt⟩ := built_bootstrap h
  obtain ⟨-, -, -, hinstalled⟩ := hbuilt.after frames
  have hafter := after_noted hbuilt.loader frames
  have hnotes : ((start.noted l).after frames).scene.trail.memory.2 =
      (start.after frames).scene.state.installed.map l.reach := by
    rw [hafter]
    rfl
  have honce : (∀ name, ((start.after frames).scene.state.installed.map l.reach).count name ≤ 1) ↔
      ∀ a ∈ (start.after frames).scene.state.installed,
        ∀ b ∈ (start.after frames).scene.state.installed, l.reach a = l.reach b → a = b := by
    rw [← List.nodup_iff_count_le_one, List.nodup_map_iff_inj_on hinstalled.nodup]
  refine ⟨?_, hafter, ?_⟩
  · rw [bootstrap_noted, h]
    rfl
  · intro installed notes
    have hn : notes = installed.map l.reach := hnotes
    rw [hn]
    refine ⟨rfl, hinstalled.nodup, fun specifier hmem => ?_, fun name => ?_, honce, fun hsegments => ?_⟩
    · obtain ⟨m, hm⟩ := Option.isSome_iff_exists.mp (hinstalled.found specifier hmem)
      exact ⟨m, hm, l.find_reach hm⟩
    · rw [List.count, List.countP_map]
      rfl
    · refine honce.mpr fun a _ b _ hab => ?_
      rwa [l.reach_of_no_segments hsegments, l.reach_of_no_segments hsegments] at hab

/-- A module that is found in another directory is installed once, however often it is asked for. -/
theorem hooks_after_moved :
    let l : Finder Unit := ⟨fun s => if s ∈ ["t:main", "file:///srv/embed/a.ts"] then .ok {}
      else .error (.notFound s), ["embed"]⟩
    let frames : List Frame := ["file:///srv/a.ts", "t:main", "file:///srv/b.ts", "file:///srv/a.ts"].map
      fun s => .load none (some (.str s))
    ∃ start, (bootstrap ⟨some "t:main", ["t:main"], [], []⟩ l.loader ()).1 = .ok start ∧
      let notes := ((start.noted l).after (frames.map fun f => (0, f))).scene.trail.memory.2
      notes = ["t:main", "file:///srv/embed/a.ts"] ∧ ∀ name, notes.count name ≤ 1 := by
  intro l frames
  refine ⟨_, rfl, ?_⟩
  obtain ⟨-, -, hnotes, -, -, -, honce, -⟩ :=
    hooks_after ⟨some "t:main", ["t:main"], [], []⟩ l () rfl (frames.map fun f => (0, f))
  refine ⟨hnotes.trans (by decide +kernel), honce.mpr ?_⟩
  decide +kernel

/-- A module that is asked for under two names is installed twice, the second time over those that were
installed in between. -/
theorem hook_runs_twice :
    let l : Finder Unit := ⟨fun s => if s ∈ ["t:main", "file:///srv/embed/a.ts", "t:later"] then .ok {}
      else .error (.notFound s), ["embed"]⟩
    let frames : List Frame := ["file:///srv/a.ts", "t:later", "file:///srv/embed/a.ts"].map
      fun s => .load none (some (.str s))
    ∃ start, (bootstrap ⟨some "t:main", [], [], []⟩ l.noted.loader ((), [])).1 = .ok start ∧
      (start.after (frames.map fun f => (0, f))).scene.trail.memory.2 =
        ["t:main", "file:///srv/embed/a.ts", "t:later", "file:///srv/embed/a.ts"] := by
  intro l frames
  refine ⟨_, rfl, ?_⟩
  decide +kernel

end Dispatcher

end ScriptLink
