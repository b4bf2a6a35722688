import ScriptLink.Proofs.Session.History
import ScriptLink.Proofs.Session.Origin
import ScriptLink.Proofs.Session.Transcript

/-!
# ScriptLink.Proofs.Session.Alike — what a frame can find out about a session

* `Loader.Respects E`: what an importer answers, and what the handlers of its modules do, is the same for memories
  that `E` relates. A loader is `Forgetful` if that is so for all memories: its importer and its handlers see
  nothing but what they are passed.
* `Dispatcher.Alike E`: two dispatchers differ in nothing that a frame can find out, that is, at most in
  the calls without a reply, in the imports that were tried, and in the memory within `E`.
* `Alike.dispatch` is one frame, `Alike.transcribe` any lines: alike dispatchers answer them alike.
* `transcribe_append`: lines behind others are taken by the dispatcher that those leave behind.
-/

namespace ScriptLink

/-! ## Handlers and importers -/

/-- What a handler does is the same for memories that `E` relates, and leaves such memories behind. -/
def Handler.Respects (E : σ → σ → Prop) (h : Handler σ ρ α) : Prop :=
  ∀ request state a b, E a b →
    (h request state a).1 = (h request state b).1 ∧ E (h request state a).2 (h request state b).2

/-- What an importer answers is the same for memories that `E` relates, and leaves such memories behind. -/
def Importer.Respects (E : σ → σ → Prop) (i : Importer σ) : Prop :=
  ∀ specifier a b, E a b → (i specifier a).1 = (i specifier b).1 ∧ E (i specifier a).2 (i specifier b).2

/-- All handlers of a module respect `E`, and so does its installation. -/
structure ScriptModule.Respects (E : σ → σ → Prop) (m : ScriptModule σ) : Prop where
  message : ∀ h, h ∈ m.exports.message ∨ h ∈ m.installs.message → Handler.Respects E h
  request : ∀ h ∈ m.installs.request, Handler.Respects E h
  reply : ∀ h, h ∈ m.exports.reply ∨ h ∈ m.installs.reply → Handler.Respects E h
  factors : ∀ h, h ∈ m.exports.factors ∨ h ∈ m.installs.factors → Handler.Respects E h
  onInstall : ∀ a b, E a b → E (m.onInstall a) (m.onInstall b)

namespace Loader

/-- The importer respects `E`, and so do all modules that can be imported. -/
structure Respects (E : σ → σ → Prop) (l : Loader σ) : Prop where
  importer : Importer.Respects E l.importer
  modules : l.Provides (ScriptModule.Respects E)

/-- What the importer and the handlers do depends on nothing but what they are passed. -/
def Forgetful (l : Loader σ) : Prop := l.Respects fun _ _ => True

section

variable {E : σ → σ → Prop} {l : Loader σ} (hl : Importer.Respects E l.importer) {a b : σ}
include hl

/-- The answers to names in turn are the same for memories that `E` relates. -/
theorem answers_of_respects (h : E a b) (names : List String) : l.answers names a = l.answers names b := by
  induction names generalizing a b with
  | nil => rfl
  | cons name rest ih =>
    obtain ⟨hanswer, hafter⟩ := hl name a b h
    rw [answers, answers, hanswer, ih hafter]

theorem remembered_of_respects (h : E a b) (names : List String) :
    E (l.remembered names a) (l.remembered names b) := by
  unfold remembered
  induction names generalizing a b with
  | nil => exact h
  | cons name rest ih => exact ih (hl name a b h).2

/-- A search goes the same way for memories that `E` relates, and leaves such memories behind. -/
theorem search_of_respects (h : E a b) (specifier : String) :
    (l.search specifier a).attempts = (l.search specifier b).attempts ∧
      (l.search specifier a).found = (l.search specifier b).found ∧
      E (l.search specifier a).memory (l.search specifier b).memory := by
  have hanswers := l.answers_of_respects hl h (l.plan specifier)
  have htried : l.tried (l.plan specifier) a = l.tried (l.plan specifier) b := by
    rw [tried, tried, hanswers]
  rw [search_eq, search_eq, hanswers, htried, (hl specifier a b h).1]
  exact ⟨rfl, rfl, l.remembered_of_respects hl h _⟩

end

end Loader

/-! ## Scenes -/

/-- Two scenes differ at most in the imports that were tried and, within `E`, in the memory. -/
structure Scene.Alike (E : σ → σ → Prop) (s t : Scene σ) : Prop where
  state : s.state = t.state
  globals : s.globals = t.globals
  memory : E s.trail.memory t.trail.memory

section

variable {E : σ → σ → Prop} {s t : Scene σ}

theorem Scene.Alike.adopt (h : Alike E s t) {m : ScriptModule σ} (hm : m.Respects E)
    (specifier : String) : Alike E (s.adopt specifier m) (t.adopt specifier m) := by
  unfold Scene.adopt
  rw [h.state]
  cases t.state.add? specifier with
  | none => exact h
  | some state =>
    dsimp only
    by_cases ht : specifier = state.target
    · rw [if_pos ht, if_pos ht]
      exact ⟨rfl, h.globals, h.memory⟩
    · rw [if_neg ht, if_neg ht]
      refine ⟨rfl, ?_, hm.onInstall _ _ h.memory⟩
      show m.installs.above s.globals = m.installs.above t.globals
      rw [h.globals]

/-- Loading a module succeeds or fails in alike scenes in the same way. -/
theorem Scene.Alike.loadLive (h : Alike E s t) {l : Loader σ} (hl : l.Respects E)
    (specifier : String) : (l.loadLive specifier s).1 = (l.loadLive specifier t).1 ∧
      Alike E (l.loadLive specifier s).2 (l.loadLive specifier t).2 := by
  obtain ⟨-, hfound, hmemory⟩ := l.search_of_respects hl.importer h.memory specifier
  have ha : Alike E (s.searched (l.search specifier s.trail.memory))
      (t.searched (l.search specifier t.trail.memory)) := ⟨h.state, h.globals, hmemory⟩
  cases hf : (l.search specifier s.trail.memory).found with
  | error e =>
    rw [Loader.loadLive_of_error hf, Loader.loadLive_of_error (hfound.symm.trans hf)]
    exact ⟨rfl, ha⟩
  | ok m =>
    rw [Loader.loadLive_of_ok hf, Loader.loadLive_of_ok (hfound.symm.trans hf)]
    exact ⟨rfl, ha.adopt (Loader.provided_search hl.modules hf) specifier⟩

end

/-! ## Dispatchers -/

/-- Two dispatchers differ in nothing that a frame can find out. -/
structure Dispatcher.Alike (E : σ → σ → Prop) (d e : Dispatcher σ) : Prop where
  loader : d.loader = e.loader
  exports : d.exports = e.exports
  scene : Scene.Alike E d.scene e.scene
  greeted : d.calls.greeted = e.calls.greeted
  phase : d.phase = e.phase

/-- The importer of a session and all its handlers respect `E`. -/
structure Dispatcher.Respects (E : σ → σ → Prop) (d : Dispatcher σ) : Prop where
  loader : d.loader.Respects E
  handlers : d.From (ScriptModule.Respects E)

/-- Two responses say the same and leave alike dispatchers behind. -/
structure Response.Alike (E : σ → σ → Prop) (r s : Response σ) : Prop where
  next : Dispatcher.Alike E r.next s.next
  replies : r.replies = s.replies
  verdict : r.verdict = s.verdict

namespace Dispatcher

/-- Where the handlers and the state are kept, only the memory can have changed. -/
theorem alike_of_kept {E : σ → σ → Prop} {d next : Dispatcher σ} (hk : Kept d next)
    (hs : Still d next) (hm : E d.scene.trail.memory next.scene.trail.memory) : Alike E d next where
  loader := hk.loader.symm
  exports := hk.exports.symm
  scene := ⟨hs.state.symm, hk.globals.symm, hm⟩
  greeted := hk.greeted.symm
  phase := hs.phase.symm

section

variable {E : σ → σ → Prop} {d e : Dispatcher σ}

theorem respects_bootstrap {seed : Seed} {l : Loader σ} (hl : l.Respects E) {memory : σ}
    (h : (bootstrap seed l memory).1 = .ok d) : d.Respects E := by
  have hloader : d.loader = l := by
    obtain ⟨state, target, -, -, -, rfl⟩ := of_bootstrap h
    rfl
  exact ⟨hloader ▸ hl, from_bootstrap hl.modules h⟩

theorem Respects.dispatch (h : d.Respects E) (now : UInt64) (f : Frame) :
    (d.dispatch now f).next.Respects E where
  loader := (d.dispatch_loader now f).symm ▸ h.loader
  handlers := h.handlers.dispatch now f

theorem Alike.symm (hE : ∀ a b, E a b → E b a) (h : Alike E d e) : Alike E e d where
  loader := h.loader.symm
  exports := h.exports.symm
  scene := ⟨h.scene.state.symm, h.scene.globals.symm, hE _ _ h.scene.memory⟩
  greeted := h.greeted.symm
  phase := h.phase.symm

theorem Alike.trans (hE : ∀ a b c, E a b → E b c → E a c) {f : Dispatcher σ} (h : Alike E d e)
    (k : Alike E e f) : Alike E d f where
  loader := h.loader.trans k.loader
  exports := h.exports.trans k.exports
  scene := ⟨h.scene.state.trans k.scene.state, h.scene.globals.trans k.scene.globals,
    hE _ _ _ h.scene.memory k.scene.memory⟩
  greeted := h.greeted.trans k.greeted
  phase := h.phase.trans k.phase

theorem Alike.messageHandler? (h : Alike E d e) : d.messageHandler? = e.messageHandler? := by
  unfold Dispatcher.messageHandler?
  rw [h.exports, h.scene.globals]

theorem Alike.replyHandler? (h : Alike E d e) : d.replyHandler? = e.replyHandler? := by
  unfold Dispatcher.replyHandler?
  rw [h.exports, h.scene.globals]

theorem Alike.factorHandler? (h : Alike E d e) : d.factorHandler? = e.factorHandler? := by
  unfold Dispatcher.factorHandler?
  rw [h.exports, h.scene.globals]

/-! ## One frame -/

/-- A handler does the same in alike dispatchers, which stay alike whatever calls it makes. -/
theorem Alike.invoke (h : Alike E d e) {g : Handler σ ρ α} (hg : g.Respects E) (request : ρ) :
    (d.invoke g request).1 = (e.invoke g request).1 ∧
      Alike E (d.invoke g request).2 (e.invoke g request).2 := by
  obtain ⟨hsame, hmemory⟩ := hg request d.scene.state _ _ h.scene.memory
  rw [h.scene.state] at hsame hmemory
  have houtcome : (d.invoke g request).1 = (e.invoke g request).1 := by
    show (g request d.scene.state _).1 = _
    rw [h.scene.state]
    exact hsame
  refine ⟨houtcome, h.loader, h.exports, ⟨h.scene.state, h.scene.globals, ?_⟩, ?_, h.phase⟩
  · show E (g request d.scene.state _).2 (g request e.scene.state _).2
    rw [h.scene.state]
    exact hmemory
  · show (d.calls.issueAll _).greeted = (e.calls.issueAll _).greeted
    rw [issueAll_greeted, issueAll_greeted]
    exact h.greeted

theorem Alike.notify (h : Alike E d e) {g : Handler σ ρ Unit} (hg : g.Respects E) (request : ρ) :
    Response.Alike E (d.notify g request) (e.notify g request) := by
  obtain ⟨houtcome, hnext⟩ := h.invoke hg request
  refine ⟨hnext, ?_, ?_⟩
  · show callFrames (d.invoke g request).1 = callFrames (e.invoke g request).1
    rw [houtcome]
  · unfold Dispatcher.notify
    dsimp only
    rw [houtcome]

/-- Answers a request to append factors, which were appended before, and lets the handler hear of it. -/
def announce (id : Option Value) (added : List String) (d : Dispatcher σ) : Response σ :=
  let updated := Frame.factorsUpdated id d.scene.state.factors
  match d.factorHandler? with
  | some h =>
    if added.isEmpty then d.reply updated
    else
      let r := d.notify h ⟨id, added, d.scene.state.factors⟩
      { r with replies := updated :: r.replies }
  | none => d.reply updated

theorem onFactors_eq (id values value : Option Value) (d : Dispatcher σ) :
    d.onFactors id values value = announce id (contributed values value)
      { d with scene.state := d.scene.state.extend (contributed values value) } := rfl

theorem Alike.reply (h : Alike E d e) (f : Frame) : Response.Alike E (d.reply f) (e.reply f) :=
  ⟨h, rfl, rfl⟩

variable (hd : d.Respects E)
include hd

theorem Alike.answerMessage (h : Alike E d e) (m : Delivery) :
    (d.answerMessage m).1 = (e.answerMessage m).1 ∧
      Alike E (d.answerMessage m).2 (e.answerMessage m).2 := by
  have hmessage := hd.handlers.message
  have hrequest := hd.handlers.globals.request
  unfold Dispatcher.answerMessage
  rw [← h.messageHandler?, ← h.scene.globals]
  cases hg : d.messageHandler? with
  | some g =>
    obtain ⟨n, hn, hfrom⟩ := hmessage g hg
    exact h.invoke (hn.message g hfrom) m
  | none =>
    cases hr : d.scene.globals.request with
    | none => exact ⟨rfl, h⟩
    | some g =>
      obtain ⟨n, hn, hfrom⟩ := hrequest g hr
      exact h.invoke (hn.request g hfrom) m.payload.plain

theorem Alike.onMessage (h : Alike E d e) (m : Delivery) :
    Response.Alike E (d.onMessage m) (e.onMessage m) := by
  obtain ⟨houtcome, hnext⟩ := h.answerMessage hd m
  rw [answerMessage_outcome, answerMessage_outcome] at houtcome
  refine ⟨?_, ?_, ?_⟩
  · rw [onMessage_next, onMessage_next]
    exact hnext
  · rw [onMessage_replies, onMessage_replies, houtcome]
  · rw [onMessage_verdict, onMessage_verdict, houtcome]

theorem Alike.onLoad (h : Alike E d e) (id specifier : Option Value) :
    Response.Alike E (d.onLoad id specifier) (e.onLoad id specifier) := by
  unfold Dispatcher.onLoad
  match specifier with
  | some (.str text) =>
    by_cases hb : Text.blank text = true
    · simp only [hb, if_true]
      exact h.reply _
    · simp only [hb, Bool.false_eq_true, if_false]
      have hload : (d.loader.loadLive text d.scene).1 = (e.loader.loadLive text e.scene).1 ∧
          Scene.Alike E (d.loader.loadLive text d.scene).2 (e.loader.loadLive text e.scene).2 := by
        rw [← h.loader]
        exact h.scene.loadLive hd.loader text
      cases hl : d.loader.loadLive text d.scene with
      | mk answer scene =>
        cases hr : e.loader.loadLive text e.scene with
        | mk other after =>
          rw [hl, hr] at hload
          obtain ⟨rfl, hscene⟩ : answer = other ∧ Scene.Alike E scene after := hload
          have hnext : Alike E { d with scene } { e with scene := after } :=
            ⟨h.loader, h.exports, hscene, h.greeted, h.phase⟩
          have hmodules : scene.state.modules = after.state.modules := by rw [hscene.state]
          cases answer with
          | error why => exact hnext.reply _
          | ok u =>
            dsimp only
            rw [hmodules]
            exact hnext.reply _
  | none | some .null | some (.bool _) | some (.num _) | some (.arr _) | some (.obj _) =>
    exact h.reply _

theorem Alike.onReply (h : Alike E d e) (r : HostReply) :
    Response.Alike E (d.onReply r) (e.onReply r) := by
  have hreply := hd.handlers.reply
  have hsettled : Alike E { d with calls := d.calls.settle r } { e with calls := e.calls.settle r } :=
    ⟨h.loader, h.exports, h.scene, h.greeted, h.phase⟩
  unfold Dispatcher.onReply
  dsimp only
  rw [← hsettled.replyHandler?]
  cases hg : Dispatcher.replyHandler? { d with calls := d.calls.settle r } with
  | none => exact ⟨hsettled, rfl, rfl⟩
  | some g =>
    obtain ⟨n, hn, hfrom⟩ := hreply g hg
    exact hsettled.notify (hn.reply g hfrom) r

theorem Alike.announce (h : Alike E d e) (id : Option Value) (added : List String) :
    Response.Alike E (d.announce id added) (e.announce id added) := by
  have hfactors := hd.handlers.factors
  unfold Dispatcher.announce
  rw [← h.factorHandler?, ← h.scene.state]
  cases hg : d.factorHandler? with
  | none => exact h.reply _
  | some g =>
    dsimp only
    by_cases hnone : added.isEmpty = true
    · rw [if_pos hnone, if_pos hnone]
      exact h.reply _
    · rw [if_neg hnone, if_neg hnone]
      obtain ⟨n, hn, hfrom⟩ := hfactors g hg
      obtain ⟨hnext, hreplies, hverdict⟩ :=
        h.notify (hn.factors g hfrom) ⟨id, added, d.scene.state.factors⟩
      exact ⟨hnext, congrArg (List.cons _) hreplies, hverdict⟩

theorem Alike.onFactors (h : Alike E d e) (id values value : Option Value) :
    Response.Alike E (d.onFactors id values value) (e.onFactors id values value) := by
  have hstate : d.scene.state.extend (contributed values value) =
      e.scene.state.extend (contributed values value) := by rw [h.scene.state]
  have hnext : Alike E
      { d with scene.state := d.scene.state.extend (contributed values value) }
      { e with scene.state := e.scene.state.extend (contributed values value) } :=
    ⟨h.loader, h.exports, ⟨hstate, h.scene.globals, h.scene.memory⟩, h.greeted, h.phase⟩
  have hkept : Respects E
      { d with scene.state := d.scene.state.extend (contributed values value) } :=
    ⟨hd.loader, hd.handlers.loader, hd.handlers.exports, hd.handlers.globals⟩
  rw [onFactors_eq, onFactors_eq]
  exact hnext.announce hkept id _

omit hd in
theorem Alike.onArguments (h : Alike E d e) (id args : Option Value) :
    Response.Alike E (d.onArguments id args) (e.onArguments id args) := by
  unfold Dispatcher.onArguments
  cases args.bind Value.asStrings? with
  | none => exact h.reply _
  | some list =>
    have hstate : d.scene.state.replaceArgs list = e.scene.state.replaceArgs list := by
      rw [h.scene.state]
    have hnext : Alike E { d with scene.state := d.scene.state.replaceArgs list }
        { e with scene.state := e.scene.state.replaceArgs list } :=
      ⟨h.loader, h.exports, ⟨hstate, h.scene.globals, h.scene.memory⟩, h.greeted, h.phase⟩
    exact hnext.reply _

omit hd in
/-- A ping finds out whether there was one before, and the time. -/
theorem Alike.onPing (h : Alike E d e) (now : UInt64) (seq : Option Value) :
    Response.Alike E (d.onPing now seq) (e.onPing now seq) := by
  have hgreeted : (d.calls.greet seq now).greeted = (e.calls.greet seq now).greeted := by
    rw [greet_greeted, greet_greeted]
  refine ⟨⟨h.loader, h.exports, h.scene, hgreeted, h.phase⟩, ?_, rfl⟩
  rw [onPing_replies, onPing_replies, h.greeted]

/-- Alike dispatchers answer a frame alike. -/
theorem Alike.dispatch (h : Alike E d e) (now : UInt64) (f : Frame) :
    Response.Alike E (d.dispatch now f) (e.dispatch now f) := by
  cases f with
  | ping seq => exact h.onPing now seq
  | message id payload | externalMessage id payload => exact h.onMessage hd _
  | load id specifier => exact h.onLoad hd id specifier
  | factors id values value => exact h.onFactors hd id values value
  | arguments id args => exact h.onArguments id args
  | hostResult id result | hostError id why => exact h.onReply hd _
  | shutdown reason => exact ⟨⟨h.loader, h.exports, h.scene, h.greeted, rfl⟩, rfl, rfl⟩
  | _ => exact h.reply _

end

end Dispatcher

/-! ## Transcripts -/

/-- A transcript behind other answers. -/
def Transcript.preceded (frames : List Frame) (t : Transcript σ) : Transcript σ :=
  { t with written := frames ++ t.written }

/-- Two transcripts, of which the first began at the line `n` and the second at the line `m`, differ in
nothing that a frame could find out. -/
structure Transcript.Alike (E : σ → σ → Prop) (n m : Nat) (t u : Transcript σ) : Prop where
  written : t.written = u.written
  read : t.read + m = u.read + n
  final : Dispatcher.Alike E t.final u.final
  ending : t.ending = u.ending

namespace Dispatcher

section

variable {E : σ → σ → Prop} {clock other : Nat → UInt64}

theorem Respects.transcribe {d : Dispatcher σ} (h : d.Respects E) (n : Nat) (lines : List String) :
    (d.transcribe clock n lines).final.Respects E := by
  induction lines generalizing n d with
  | nil => exact h
  | cons line rest ih =>
    have hnext := h.dispatch (clock n) (Frame.decode line)
    cases hv : (d.dispatch (clock n) (Frame.decode line)).verdict.ending? with
    | some e =>
      rw [transcribe_of_some hv]
      exact hnext
    | none =>
      rw [transcribe_of_none hv]
      exact ih hnext (n + 1)

/-- Alike dispatchers make the same of lines that they take at the same times. -/
theorem Alike.transcribe {n m : Nat} {lines : List String}
    (hclock : ∀ i < lines.length, clock (n + i) = other (m + i)) {d e : Dispatcher σ}
    (hd : d.Respects E) (h : Alike E d e) :
    Transcript.Alike E n m (d.transcribe clock n lines) (e.transcribe other m lines) := by
  induction lines generalizing n m d e with
  | nil => exact ⟨rfl, Nat.add_comm n m, h, rfl⟩
  | cons line rest ih =>
    have hnow : clock n = other m := hclock 0 (by simp)
    obtain ⟨hnext, hreplies, hverdict⟩ := h.dispatch hd (clock n) (Frame.decode line)
    rw [hnow] at hnext hreplies hverdict
    have hstep : d.dispatch (clock n) (Frame.decode line) = d.dispatch (other m) (Frame.decode line) := by
      rw [hnow]
    cases hv : (d.dispatch (clock n) (Frame.decode line)).verdict.ending? with
    | some w =>
      have hw : (e.dispatch (other m) (Frame.decode line)).verdict.ending? = some w := by
        rw [← hverdict, ← hstep, hv]
      rw [transcribe_of_some hv, transcribe_of_some hw, hstep]
      exact ⟨hreplies, by dsimp only; omega, hnext, rfl⟩
    | none =>
      have hw : (e.dispatch (other m) (Frame.decode line)).verdict.ending? = none := by
        rw [← hverdict, ← hstep, hv]
      rw [transcribe_of_none hv, transcribe_of_none hw, hstep]
      have hlater : ∀ i < rest.length, clock (n + 1 + i) = other (m + 1 + i) := by
        intro i hi
        have hi : i + 1 < (line :: rest).length := by simpa using hi
        simpa [Nat.add_assoc, Nat.add_comm 1] using hclock (i + 1) hi
      obtain ⟨hwritten, hread, hfinal, hending⟩ :=
        ih hlater (hd.dispatch (other m) (Frame.decode line)) hnext
      refine ⟨?_, by dsimp only; omega, hfinal, hending⟩
      dsimp only
      rw [hreplies, hwritten]

/-- Lines that do not end a session are all taken, and what comes of those behind them comes after. -/
theorem transcribe_append {n : Nat} {before : List String} {d : Dispatcher σ}
    (h : (d.transcribe clock n before).ending = none) (behind : List String) :
    (d.transcribe clock n before).read = n + before.length ∧
    d.transcribe clock n (before ++ behind) =
      ((d.transcribe clock n before).final.transcribe clock (n + before.length) behind).preceded
        (d.transcribe clock n before).written := by
  induction before generalizing n d with
  | nil => exact ⟨rfl, rfl⟩
  | cons line rest ih =>
    cases hv : (d.dispatch (clock n) (Frame.decode line)).verdict.ending? with
    | some e =>
      rw [transcribe_of_some hv] at h
      cases h
    | none =>
      rw [transcribe_of_none hv] at h ⊢
      obtain ⟨hread, hlater⟩ := ih h
      have hlength : n + 1 + rest.length = n + (line :: rest).length := by
        rw [List.length_cons]
        omega
      refine ⟨hread.trans hlength, ?_⟩
      rw [List.cons_append, transcribe_of_none hv, hlater, hlength]
      simp [Transcript.preceded, List.append_assoc]

end

end Dispatcher

end ScriptLink
