import ScriptLink.Proofs.Session.Alike
import ScriptLink.Proofs.Session.Careful
import ScriptLink.Proofs.Host.Drive

/-!
# ScriptLink.Proofs.Session.Resemblance — sessions that a driver cannot tell apart

* `Frame.remarks`: of the frames that a session writes, the kinds that a driver counts or gives up at.
* `Dispatcher.Tame`: a session whose calls reach the host and whose handlers of replies do nothing, as
  those of the built-in modules are (`tame_builtin`).
* `Alike.dispatch_anytime`: alike sessions resemble each other, whenever they take a frame; so do their
  transcripts (`Alike.transcribe_anytime`).
* `Tame.dispatch_idle`: a tame session says nothing to replies to its calls, and of lines that mean nothing
  to it only that it does not know them.
-/

namespace ScriptLink

open ScriptLink.Frame (tells)

/-! ## Remarks -/

namespace Frame

/-- The kinds of lines that a driver counts or gives up at. -/
def Kind.matters : Kind → Bool
  | .pong | .hostCall | .error | .loadError => true
  | _ => false

/-- What a driver that takes the lines of the frames counts or gives up at. -/
def remarks (frames : List Frame) : List Kind :=
  (frames.map fun f => (decode f.encode).kind).filter Kind.matters

theorem remarks_append (xs ys : List Frame) : remarks (xs ++ ys) = remarks xs ++ remarks ys := by
  unfold remarks
  rw [List.map_append, List.filter_append]

/-- The lines of a kind that matters are those among the remarks. -/
theorem countP_remarks {k : Kind} (hk : k.matters = true) (frames : List Frame) :
    (frames.map encode).countP (tells k) = (remarks frames).count k := by
  unfold remarks
  rw [List.count_filter hk, List.count, List.countP_map, List.countP_map]
  rfl

/-- A frame of a kind that does not matter is not remarked. -/
theorem remarks_of_not_matters {f : Frame} (h : f.kind.matters = false) : remarks [f] = [] := by
  have hline : (decode f.encode).kind.matters = false := by
    rcases f.kind_decode_encode with hk | hk | hk <;> rw [hk]
    · exact h
    · rfl
    · rfl
  unfold remarks
  rw [List.map_singleton, List.filter_cons_of_neg (by rw [hline]; decide), List.filter_nil]

/-- A line that a session answers at most by saying that it does not know it. -/
def idle (line : String) : Bool :=
  match (decode line).kind with
  | .hostResult | .hostError | .unknown | .text => true
  | _ => false

end Frame

open ScriptLink.Frame (remarks remarks_append idle)

/-! ## Tame modules -/

/-- A handler that makes no call, does not fail and remembers nothing. -/
def Handler.Placid (h : Handler σ ρ Unit) : Prop :=
  ∀ request state memory, h request state memory = (Outcome.pure (), memory)

namespace ScriptModule

/-- The handlers of replies that a module has do nothing. -/
def Placid (m : ScriptModule σ) : Prop :=
  ∀ h, h ∈ m.exports.reply ∨ h ∈ m.installs.reply → h.Placid

/-- What a handler does with one memory is what it does with the same. -/
theorem respects_eq (m : ScriptModule σ) : m.Respects Eq := by
  have h {ρ α : Type} (h : Handler σ ρ α) : h.Respects Eq := by
    rintro request state a _ rfl
    exact ⟨rfl, rfl⟩
  exact ⟨fun g _ => h g, fun g _ => h g, fun g _ => h g, fun g _ => h g, fun _ _ => congrArg _⟩

end ScriptModule

theorem Loader.respects_eq (l : Loader σ) : l.Respects Eq := by
  refine ⟨?_, fun _ _ m _ => m.respects_eq⟩
  rintro specifier a _ rfl
  exact ⟨rfl, rfl⟩

namespace Builtin

theorem placid_ignore : (ignore : Handler σ ρ Unit).Placid := fun _ _ _ => rfl

theorem placid_modules : ∀ m ∈ modules, m.2.Placid := by
  have hnone {m : ScriptModule Memory} (he : m.exports.reply = none)
      (hi : m.installs.reply = none) : m.Placid := by
    rintro h (hh | hh)
    · rw [he] at hh
      cases hh
    · rw [hi] at hh
      cases hh
  have hsome {m : ScriptModule Memory} (he : m.exports.reply = some ignore)
      (hi : m.installs.reply = none) : m.Placid := by
    rintro h (hh | hh)
    · rw [he] at hh
      cases hh
      exact placid_ignore
    · rw [hi] at hh
      cases hh
  unfold modules
  simp only [List.forall_mem_cons]
  exact ⟨hsome rfl rfl, hnone rfl rfl, hnone rfl rfl, hsome rfl rfl, hnone rfl rfl,
    List.forall_mem_nil _⟩

end Builtin

namespace Dispatcher

/-- The calls of a session reach the host, and its handlers of replies do nothing. -/
structure Tame (d : Dispatcher σ) : Prop where
  careful : d.Careful
  placid : d.From ScriptModule.Placid
  reads : d.Respects Eq

theorem tame_builtin {seed : Seed} {segments : List String} {memory : Memory}
    {d : Dispatcher Memory}
    (h : (bootstrap seed ⟨Builtin.registry.importer, segments⟩ memory).1 = .ok d) : d.Tame where
  careful := careful_bootstrap (Builtin.careful_builtin segments) h
  placid := from_bootstrap (Builtin.provides Builtin.placid_modules segments) h
  reads := respects_bootstrap (Loader.respects_eq _) h

section

variable {d e : Dispatcher σ}

theorem Tame.dispatch (h : d.Tame) (now : UInt64) (f : Frame) : (d.dispatch now f).next.Tame where
  careful := careful_dispatch h.careful now f
  placid := h.placid.dispatch now f
  reads := h.reads.dispatch now f

theorem Alike.careful {E : σ → σ → Prop} (h : Alike E d e) (hd : d.Careful) : e.Careful where
  loader := h.loader ▸ hd.loader
  exports := h.exports ▸ hd.exports
  globals := h.scene.globals ▸ hd.globals

theorem Alike.refl (d : Dispatcher σ) : Alike Eq d d := alike_of_kept (.refl d) ⟨rfl, rfl, rfl⟩ rfl

end

end Dispatcher

/-! ## Any time -/

/-- A driver cannot tell two responses apart, nor can a frame the sessions that they leave behind. -/
structure Response.Resembles (r s : Response σ) : Prop where
  next : Dispatcher.Alike Eq r.next s.next
  heard : remarks r.replies = remarks s.replies
  verdict : r.verdict = s.verdict

/-- A driver cannot tell two transcripts apart, nor can a frame the sessions that they leave behind. -/
structure Transcript.Resembles (t u : Transcript σ) : Prop where
  heard : remarks t.written = remarks u.written
  final : Dispatcher.Alike Eq t.final u.final
  ending : t.ending = u.ending

theorem Transcript.preceded_preceded (t : Transcript σ) (xs ys : List Frame) :
    (t.preceded ys).preceded xs = t.preceded (xs ++ ys) := by
  unfold preceded
  rw [List.append_assoc]

theorem Transcript.Resembles.refl (t : Transcript σ) : Resembles t t := ⟨rfl, .refl _, rfl⟩

theorem Transcript.Resembles.trans {t u v : Transcript σ} (h : Resembles t u) (k : Resembles u v) :
    Resembles t v where
  heard := h.heard.trans k.heard
  final := Dispatcher.Alike.trans (E := Eq) (fun _ _ _ => Eq.trans) h.final k.final
  ending := h.ending.trans k.ending

theorem Transcript.Resembles.symm {t u : Transcript σ} (h : Resembles t u) : Resembles u t where
  heard := h.heard.symm
  final := Dispatcher.Alike.symm (E := Eq) (fun _ _ => Eq.symm) h.final
  ending := h.ending.symm

/-- Answers that a driver cannot tell apart may come before transcripts that it cannot tell apart. -/
theorem Transcript.Resembles.preceded {t u : Transcript σ} (h : Resembles t u) {xs ys : List Frame}
    (hxs : remarks xs = remarks ys) : Resembles (t.preceded xs) (u.preceded ys) where
  heard := by
    show remarks (xs ++ t.written) = remarks (ys ++ u.written)
    rw [remarks_append, remarks_append, hxs, h.heard]
  final := h.final
  ending := h.ending

namespace Dispatcher

section

variable {d e : Dispatcher σ}

/-- The answer to a ping has the same kinds whenever it comes. -/
theorem remarks_onPing (hd : d.Careful) (now : UInt64) {seq : Option Value}
    (hseq : (Frame.ping seq).Portable) : remarks (d.onPing now seq).replies =
      if d.calls.greeted then [.pong] else [.pong, .hostCall] := by
  have hkinds (f : Frame) (hf : f ∈ (d.onPing now seq).replies)
      (hk : f.kind = .pong ∨ f.kind = .hostCall) : (Frame.decode f.encode).kind = f.kind :=
    kind_decode_of_mem_replies (f := .ping seq) hd hseq hf hk
  rw [onPing_replies] at hkinds ⊢
  have hpong : (Frame.decode (Frame.pong (seq.getD .null) now).encode).kind = .pong :=
    hkinds _ List.mem_cons_self (.inl rfl)
  cases hg : d.calls.greeted with
  | true => simp [Frame.remarks, hpong, Frame.Kind.matters]
  | false =>
    rw [hg] at hkinds
    have hcall : (Frame.decode (Ledger.greeting seq now).frame.encode).kind = .hostCall :=
      hkinds _ (List.mem_cons_of_mem _ (List.mem_singleton_self _)) (.inr rfl)
    simp [Frame.remarks, hpong, hcall, Frame.Kind.matters]

/-- Alike sessions take a frame in ways that cannot be told apart, whenever they take it. -/
theorem Alike.dispatch_anytime (h : Alike Eq d e) (hd : d.Tame) {f : Frame} (hf : f.Portable)
    (now other : UInt64) : Response.Resembles (d.dispatch now f) (e.dispatch other f) := by
  have hsame := h.dispatch hd.reads now f
  cases f with
  | ping seq =>
    have hgreeted : (d.calls.greet seq now).greeted = (e.calls.greet seq other).greeted := by
      rw [greet_greeted, greet_greeted]
    refine ⟨⟨h.loader, h.exports, h.scene, hgreeted, h.phase⟩, ?_, rfl⟩
    show remarks (d.onPing now seq).replies = remarks (e.onPing other seq).replies
    rw [remarks_onPing hd.careful now hf, remarks_onPing (h.careful hd.careful) other hf, h.greeted]
  | _ => exact ⟨hsame.next, congrArg remarks hsame.replies, hsame.verdict⟩

theorem Alike.transcribe_anytime (h : Alike Eq d e) (hd : d.Tame) (clock other : Nat → UInt64)
    (n m : Nat) (lines : List String) :
    Transcript.Resembles (d.transcribe clock n lines) (e.transcribe other m lines) := by
  induction lines generalizing n m d e with
  | nil => exact ⟨rfl, h, rfl⟩
  | cons line rest ih =>
    obtain ⟨hnext, hremarks, hverdict⟩ :=
      h.dispatch_anytime hd (Frame.portable_decode line) (clock n) (other m)
    cases hv : (d.dispatch (clock n) (Frame.decode line)).verdict.ending? with
    | some w =>
      have hw : (e.dispatch (other m) (Frame.decode line)).verdict.ending? = some w := by
        rw [← hverdict, hv]
      rw [transcribe_of_some hv, transcribe_of_some hw]
      exact ⟨hremarks, hnext, rfl⟩
    | none =>
      have hw : (e.dispatch (other m) (Frame.decode line)).verdict.ending? = none := by
        rw [← hverdict, hv]
      rw [transcribe_of_none hv, transcribe_of_none hw]
      exact (ih hnext (hd.dispatch _ _) (n + 1) (m + 1)).preceded hremarks

/-! ## Lines that mean nothing -/

theorem Tame.onReply (h : d.Tame) (r : HostReply) : Alike Eq d (d.onReply r).next ∧
    (d.onReply r).replies = [] ∧ (d.onReply r).verdict = .proceed := by
  have hplacid : ∀ g ∈ d.replyHandler?, g.Placid := by
    intro g hg
    obtain ⟨m, hm, hfrom⟩ := h.placid.reply g hg
    exact hm g hfrom
  have hsame : Alike Eq d { d with calls := d.calls.settle r } :=
    alike_of_kept ⟨rfl, rfl, rfl, rfl⟩ ⟨rfl, rfl, rfl⟩ rfl
  unfold Dispatcher.onReply
  dsimp only
  have hreply : Dispatcher.replyHandler? { d with calls := d.calls.settle r } = d.replyHandler? := rfl
  rw [hreply]
  cases hg : d.replyHandler? with
  | none => exact ⟨hsame, rfl, rfl⟩
  | some g =>
    have hquiet := hplacid g hg r d.scene.state d.scene.trail.memory
    unfold Dispatcher.notify Dispatcher.invoke
    dsimp only
    rw [hquiet]
    exact ⟨hsame, rfl, rfl⟩

/-- A tame session says at most that it does not know an idle line, and is afterwards as it was before. -/
theorem Tame.dispatch_idle (h : d.Tame) {line : String} (hl : idle line = true) (now : UInt64) :
    let r := d.dispatch now (Frame.decode line)
    Alike Eq d r.next ∧ (r.replies = [] ∨ ∃ received, r.replies = [.unknown received]) ∧
      r.verdict = .proceed := by
  intro r
  unfold idle at hl
  generalize hf : Frame.decode line = f at hl
  have hr : r = d.dispatch now f := by
    show d.dispatch now (Frame.decode line) = _
    rw [hf]
  rw [hr]
  cases f with
  | hostResult id result =>
    obtain ⟨hnext, hreplies, hverdict⟩ := h.onReply (.result id result)
    exact ⟨hnext, Or.inl hreplies, hverdict⟩
  | hostError id why =>
    obtain ⟨hnext, hreplies, hverdict⟩ := h.onReply (.error id (Value.plainOr defaultHostError why))
    exact ⟨hnext, Or.inl hreplies, hverdict⟩
  | unknown v => exact ⟨.refl d, Or.inr ⟨v, rfl⟩, rfl⟩
  | text raw => exact ⟨.refl d, Or.inr ⟨.null, rfl⟩, rfl⟩
  | _ => cases hl

theorem Tame.remarks_idle (h : d.Tame) {line : String} (hl : idle line = true) (now : UInt64) :
    remarks (d.dispatch now (Frame.decode line)).replies = [] := by
  obtain ⟨-, hreplies | ⟨v, hreplies⟩, -⟩ := h.dispatch_idle hl now
  · rw [hreplies]
    rfl
  · rw [hreplies]
    exact Frame.remarks_of_not_matters rfl

/-- Lines behind a shutdown are not taken. -/
theorem transcribe_append_of_shutdown (clock : Nat → UInt64) (n : Nat) {lines : List String}
    (h : ∃ line ∈ lines, tells .shutdown line = true) (more : List String) (d : Dispatcher σ) :
    d.transcribe clock n (lines ++ more) = d.transcribe clock n lines := by
  induction lines generalizing n d with
  | nil =>
    obtain ⟨line, hl, -⟩ := h
    cases hl
  | cons first rest ih =>
    rw [List.cons_append]
    cases hv : (d.dispatch (clock n) (Frame.decode first)).verdict.ending? with
    | some w => rw [transcribe_of_some hv, transcribe_of_some hv]
    | none =>
      have hrest : ∃ line ∈ rest, tells .shutdown line = true := by
        obtain ⟨line, hl, hs⟩ := h
        rcases List.mem_cons.mp hl with rfl | hl
        · rw [(stop_iff_shutdown _ _ d).mpr (Frame.tells_iff.mp hs)] at hv
          cases hv
        · exact ⟨line, hl, hs⟩
      rw [transcribe_of_none hv, transcribe_of_none hv, ih (n + 1) hrest]

end

end Dispatcher

end ScriptLink
