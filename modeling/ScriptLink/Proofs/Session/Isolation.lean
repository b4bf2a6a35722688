import ScriptLink.Proofs.Frame.Portable
import ScriptLink.Proofs.Session.Alike

/-!
# ScriptLink.Proofs.Session.Isolation — failures stay where they happen

* `Dispatcher.Harmless` are the frames that are refused, and those that only ask a handler, which does not
  fail fatally. Such a frame leaves a dispatcher alike (`alike_of_harmless`).
* `transcribe_without_harmless`: the transcript without the line of such a frame lacks the replies to it.
* `run_without_harmless`: so does the run of a session, which is otherwise the same.
-/

namespace ScriptLink

namespace Dispatcher

/-! ## Harmless frames -/

/-- A frame that asks for nothing the session could keep: one that is refused, or one that only reaches a
handler, which does not fail fatally. -/
def Harmless (d : Dispatcher σ) (f : Frame) : Prop :=
  match f with
  | .load _ _ => d.loader.granted? d.scene.trail.memory f = none
  | .arguments _ _ => f.replacement? = none
  | .message _ _ | .externalMessage _ _ | .hostResult _ _ | .hostError _ _ =>
    ∀ why, (d.invoked f).result ≠ .error (.fatal why)
  | .ping _ | .factors _ _ _ | .shutdown _ => False
  | _ => True

/-- A search without success leaves the attempts behind. -/
theorem loadLive_of_not_offers {l : Loader σ} {name : String} {s : Scene σ}
    (h : l.offers name s.trail.memory = false) : ∃ why,
      l.loadLive name s = (.error why, s.searched (l.search name s.trail.memory)) := by
  have hok := l.isOk_search name s.trail.memory
  rw [h] at hok
  cases hf : (l.search name s.trail.memory).found with
  | ok m =>
    rw [hf] at hok
    cases hok
  | error why => exact ⟨why, Loader.loadLive_of_error hf⟩

/-- A refused import leaves nothing behind but the attempts, and what is remembered of them. -/
theorem alike_of_refused {id specifier : Option Value} {d : Dispatcher σ}
    (h : d.loader.granted? d.scene.trail.memory (.load id specifier) = none) :
    Alike (fun _ _ => True) d (d.onLoad id specifier).next := by
  have hrefl : Alike (fun _ _ => True) d d := alike_of_kept (.refl d) ⟨rfl, rfl, rfl⟩ trivial
  unfold onLoad
  match specifier with
  | some (.str name) =>
    by_cases hb : Text.blank name = true
    · simp only [hb, if_true]
      exact hrefl
    · have hoffers : d.loader.offers name d.scene.trail.memory = false := by
        simpa [Loader.granted?, hb] using h
      obtain ⟨why, hl⟩ := loadLive_of_not_offers hoffers
      simp only [hb, Bool.false_eq_true, if_false, hl]
      exact ⟨rfl, rfl, ⟨rfl, rfl, trivial⟩, rfl, rfl⟩
  | none | some .null | some (.bool _) | some (.num _) | some (.arr _) | some (.obj _) =>
    exact hrefl

/-- Arguments that are refused leave nothing behind. -/
theorem onArguments_of_refused {id args : Option Value}
    (h : (Frame.arguments id args).replacement? = none) (d : Dispatcher σ) :
    (d.onArguments id args).next = d := by
  unfold onArguments
  rw [← replacement?_arguments id args, h]
  rfl

/-- Without a fatal failure of a handler, only a shutdown ends the session. -/
theorem ending?_eq_none {d : Dispatcher σ} {f : Frame} (hk : f.kind ≠ .shutdown)
    (hf : ∀ why, (d.invoked f).result ≠ .error (.fatal why)) (now : UInt64) :
    (d.dispatch now f).verdict.ending? = none := by
  rw [dispatch_verdict]
  cases hr : (d.invoked f).result with
  | ok v =>
    rw [judged, if_neg hk]
    rfl
  | error e =>
    cases e with
    | fatal why => exact absurd hr (hf why)
    | failed why =>
      rw [judged]
      split <;> rfl

/-- A harmless frame changes nothing that a later frame could find out, and the session goes on. -/
theorem alike_of_harmless {d : Dispatcher σ} {f : Frame} (h : d.Harmless f) (now : UInt64) :
    Alike (fun _ _ => True) d (d.dispatch now f).next ∧
      (d.dispatch now f).verdict.ending? = none := by
  cases f with
  | ping seq => exact h.elim
  | factors id values value => exact h.elim
  | shutdown reason => exact h.elim
  | message id payload | externalMessage id payload =>
    exact ⟨alike_of_kept (d.onMessage_kept _) (d.onMessage_still _) trivial,
      ending?_eq_none Frame.Kind.noConfusion h now⟩
  | hostResult id result | hostError id why =>
    exact ⟨alike_of_kept (d.onReply_kept _) (d.onReply_still _) trivial,
      ending?_eq_none Frame.Kind.noConfusion h now⟩
  | load id specifier =>
    exact ⟨alike_of_refused h, congrArg Verdict.ending? (d.onLoad_verdict _ _)⟩
  | arguments id args =>
    have hnext : (d.onArguments id args).next = d := onArguments_of_refused h d
    have hsame : Alike (fun _ _ => True) d d := alike_of_kept (.refl d) ⟨rfl, rfl, rfl⟩ trivial
    refine ⟨?_, congrArg Verdict.ending? (d.onArguments_verdict _ _)⟩
    show Alike _ d (d.onArguments id args).next
    rw [hnext]
    exact hsame
  | _ => exact ⟨alike_of_kept (.refl d) ⟨rfl, rfl, rfl⟩ trivial, rfl⟩

end Dispatcher

/-! ## Runs without a line -/

/-- The options of a run that lacks the line with the number `k`, in which each other line is taken at the
time at which it is taken in the run with that line. -/
def Options.without (k : Nat) (o : Options) : Options :=
  { o with clock := fun n => if n < k then o.clock n else o.clock (n + 1) }

theorem Options.clock_without_of_lt (o : Options) {n k : Nat} (h : n < k) :
    (o.without k).clock n = o.clock n :=
  if_pos h

theorem Options.clock_without_of_le (o : Options) {n k : Nat} (h : k ≤ n) :
    (o.without k).clock n = o.clock (n + 1) :=
  if_neg (Nat.not_lt.mpr h)

namespace Dispatcher

/-- Without a harmless line, a transcript lacks the replies to it, and nothing else. -/
theorem transcribe_without_harmless {d : Dispatcher σ} (hd : d.Respects fun _ _ => True) (o : Options)
    {before : List String} {line : String} (behind : List String)
    (hbefore : (d.transcribe o.clock 0 before).ending = none)
    (hline : (d.transcribe o.clock 0 before).final.Harmless (Frame.decode line)) :
    let t := d.transcribe o.clock 0 before
    let full := d.transcribe o.clock 0 (before ++ line :: behind)
    let short := d.transcribe (o.without before.length).clock 0 (before ++ behind)
    ∃ later, full.written = t.written ++
        ((t.final.dispatch (o.clock before.length) (Frame.decode line)).replies ++ later) ∧
      short.written = t.written ++ later ∧ full.ending = short.ending ∧
      full.read = short.read + 1 ∧ Alike (fun _ _ => True) full.final short.final := by
  intro t full short
  have ht : t.final.Respects fun _ _ => True := hd.transcribe 0 before
  have hsame : Alike (fun _ _ => True) d d := alike_of_kept (.refl d) ⟨rfl, rfl, rfl⟩ trivial
  obtain ⟨hnext, hnone⟩ := alike_of_harmless hline (o.clock (0 + before.length))
  -- up to the line the runs are the same
  have hclock : ∀ i < before.length, o.clock (0 + i) = (o.without before.length).clock (0 + i) := by
    intro i hi
    rw [Nat.zero_add, o.clock_without_of_lt hi]
  have hearly := hsame.transcribe hclock hd
  have hbefore' : (d.transcribe (o.without before.length).clock 0 before).ending = none :=
    hearly.ending.symm.trans hbefore
  -- behind it, one dispatcher has seen the line and the other has not
  have hapart := (hnext.symm fun _ _ _ => trivial).trans (fun _ _ _ _ _ => trivial) hearly.final
  have hclock : ∀ i < behind.length, o.clock (0 + before.length + 1 + i) =
      (o.without before.length).clock (0 + before.length + i) := by
    intro i _
    have hi : before.length ≤ 0 + before.length + i := by omega
    rw [o.clock_without_of_le hi, Nat.add_right_comm]
  have hlater := hapart.transcribe hclock (ht.dispatch _ _)
  have hfull : full = _ := (transcribe_append hbefore (line :: behind)).2
  have hshort : short = _ := (transcribe_append hbefore' behind).2
  rw [transcribe_of_none hnone] at hfull
  rw [← hearly.written] at hshort
  obtain ⟨hwritten, hread, hfinal, hending⟩ := hlater
  rw [Nat.zero_add] at hfull hshort hwritten hread hfinal hending
  refine ⟨_, congrArg Transcript.written hfull, ?_, ?_, ?_, ?_⟩
  · rw [hshort, hwritten]
    rfl
  · rw [hfull, hshort]
    exact hending
  · rw [hfull, hshort]
    exact Nat.add_right_cancel (hread.trans (Nat.add_right_comm _ _ 1))
  · rw [hfull, hshort]
    exact hfinal

end Dispatcher

namespace Session

/-- A session over a channel that takes everything it writes comes to the end of its transcript. -/
theorem run_follows {s : Session σ} (hin : s.framesIn = 0) (o : Options)
    (ha : s.handle.transport.Accepts
      ((s.dispatcher.transcribe o.clock 0 s.handle.transport.lines).written.length + 1)) :
    let t := s.dispatcher.transcribe o.clock 0 s.handle.transport.lines
    (s.run o).1 = t.ending.getD (s.handle.transport.tail o.limit).ending ∧
      Follows (t.preceded [s.dispatcher.ready]) s (s.run o).2 := by
  intro t
  obtain ⟨u, hw, hs⟩ := write_of_accepts o.limit s.dispatcher.ready ha
  have hlines : u.handle.transport.lines = s.handle.transport.lines := hs.transport.lines
  have htail : u.handle.transport.tail o.limit = s.handle.transport.tail o.limit := hs.transport.tail
  have hread : u.framesIn = 0 := hs.framesIn.trans hin
  have hrest : u.handle.transport.Accepts t.written.length := by
    refine hs.transport.accepts _ ?_
    rw [Nat.add_comm] at ha
    exact ha
  -- the pump has a turn for every line
  have hturns : u.handle.transport.lines.length < u.pending + 1 :=
    Nat.lt_succ_of_le u.handle.transport.length_lines_le
  obtain ⟨after, hp, hf⟩ := pumpFor_transcribes o hturns rfl
    (by rw [hs.dispatcher, hread, hlines]; exact hrest)
  rw [hs.dispatcher, hread, hlines] at hp hf
  rw [htail] at hp
  have hrun : s.run o = (t.ending.getD (s.handle.transport.tail o.limit).ending, after) := by
    unfold run
    rw [hw]
    exact hp
  rw [hrun]
  refine ⟨rfl, ?_, hf.dispatcher, hf.framesIn, ?_⟩
  · rw [hf.written, hs.transport.written, List.append_assoc]
    rfl
  · rw [hf.framesOut, hs.framesOut, Nat.add_assoc]
    simp [Transcript.preceded, t, Nat.add_comm]

theorem bootstrap_dispatcher {seed : Seed} {l : Loader σ} {memory : σ} {rid : UInt32}
    {slot : Slot Transport} {s : Session σ} (h : (bootstrap seed l memory rid slot).1 = .ok s) :
    (Dispatcher.bootstrap seed l memory).1 = .ok s.dispatcher := by
  obtain ⟨d, handle, after, hd, -, rfl⟩ := of_bootstrap h
  exact hd

/-- **Failures stay where they happen**: if the importer and all handlers see nothing but what they are passed, a
session over lines with a harmless one among them writes what a session over the other lines writes, with the
replies to that line in its place; both end in the same way, in the same phase and with the same state; and the
first has read one line more and written as many more as there were replies. -/
theorem run_without_harmless (seed : Seed) (l : Loader σ) (hl : l.Forgetful) (memory : σ)
    (rid rid' : UInt32) (slot slot' : Slot Transport) {s r : Session σ}
    (hs : (bootstrap seed l memory rid slot).1 = .ok s)
    (hr : (bootstrap seed l memory rid' slot').1 = .ok r)
    (o : Options) (before behind : List String) (line : String)
    (hslines : s.handle.transport.lines = before ++ line :: behind)
    (hrlines : r.handle.transport.lines = before ++ behind)
    (htail : s.handle.transport.tail o.limit = r.handle.transport.tail o.limit)
    (hsaccepts : s.handle.transport.Accepts ((s.dispatcher.transcribe o.clock 0
      (before ++ line :: behind)).written.length + 1))
    (hraccepts : r.handle.transport.Accepts ((r.dispatcher.transcribe (o.without before.length).clock 0
      (before ++ behind)).written.length + 1))
    (hbefore : (s.dispatcher.transcribe o.clock 0 before).ending = none)
    (hline : (s.dispatcher.transcribe o.clock 0 before).final.Harmless (Frame.decode line)) :
    let t := s.dispatcher.transcribe o.clock 0 before
    let replies := (t.final.dispatch (o.clock before.length) (Frame.decode line)).replies
    let full := s.run o
    let short := r.run (o.without before.length)
    (∃ later, full.2.handle.transport.written = s.handle.transport.written ++
        (s.dispatcher.ready :: t.written ++ replies ++ later).map Frame.encode ∧
      short.2.handle.transport.written = r.handle.transport.written ++
        (s.dispatcher.ready :: t.written ++ later).map Frame.encode) ∧
    full.1 = short.1 ∧
    full.2.dispatcher.phase = short.2.dispatcher.phase ∧
    full.2.dispatcher.scene.state = short.2.dispatcher.scene.state ∧
    full.2.framesIn = short.2.framesIn + 1 ∧
    full.2.framesOut = short.2.framesOut + replies.length := by
  intro t replies full short
  have hbegun := bootstrap_dispatcher hs
  obtain ⟨hsin, hsout⟩ := bootstrap_counters hs
  obtain ⟨hrin, hrout⟩ := bootstrap_counters hr
  have hsame : r.dispatcher = s.dispatcher := by
    have hother := bootstrap_dispatcher hr
    rw [hbegun] at hother
    exact (Except.ok.inj hother).symm
  obtain ⟨later, hfull, hshort, hending, hread, hfinal⟩ :=
    Dispatcher.transcribe_without_harmless (Dispatcher.respects_bootstrap hl hbegun) o behind hbefore
      hline
  obtain ⟨hsend, hsfollows⟩ := run_follows hsin o (by rw [hslines]; exact hsaccepts)
  obtain ⟨hrend, hrfollows⟩ := run_follows hrin (o.without before.length)
    (by rw [hrlines]; exact hraccepts)
  rw [hslines] at hsend hsfollows
  rw [hrlines, hsame] at hrend hrfollows
  have htail' : s.handle.transport.tail o.limit =
      r.handle.transport.tail (o.without before.length).limit := htail
  refine ⟨⟨later, ?_, ?_⟩, ?_, ?_, ?_, ?_, ?_⟩
  · rw [hsfollows.written, Transcript.preceded, hfull]
    simp [t, replies]
  · rw [hrfollows.written, Transcript.preceded, hshort]
    simp [t]
  · rw [hsend, hrend, hending, htail']
  · rw [hsfollows.dispatcher, hrfollows.dispatcher]
    exact hfinal.phase
  · rw [hsfollows.dispatcher, hrfollows.dispatcher]
    exact hfinal.scene.state
  · rw [hsfollows.framesIn, hrfollows.framesIn]
    exact hread
  · rw [hsfollows.framesOut, hrfollows.framesOut, hsout, hrout, Transcript.preceded,
      Transcript.preceded, hfull, hshort]
    simp [t, replies]
    omega

/-- A message whose handler fails is answered, and the session then stops as it would have without it. -/
theorem run_without_harmless_message :
    let failing : ScriptModule Unit :=
      { exports := { message := some (Handler.ofRequest fun _ => .fail (.failed "no")) } }
    let l : Loader Unit := ⟨.ofFind fun _ => .ok failing, []⟩
    let channel (lines : List String) : Transport := .memory ⟨⟨lines, true, true⟩, .empty⟩
    let message := (Frame.message none .null).encode
    let farewell := (Frame.shutdown none).encode
    let begun (lines : List String) : Session Unit :=
      ⟨⟨3, channel lines⟩, Dispatcher.ofTarget l ⟨"a", [], [], []⟩ ⟨["a"], ()⟩ failing, 0, 0⟩
    let o : Options := ⟨none, fun _ => 0⟩
    let full := (begun [message, farewell]).run o
    let short := (begun [farewell]).run (o.without 0)
    full.1 = short.1 ∧ full.2.framesIn = short.2.framesIn + 1 ∧
      full.2.framesOut = short.2.framesOut + 1 := by
  intro failing l channel message farewell begun o full short
  have hforgetful : l.Forgetful := by
    refine ⟨fun _ _ _ _ => ⟨rfl, trivial⟩, fun specifier memory m hm => ?_⟩
    obtain rfl : failing = m := Except.ok.inj hm
    refine ⟨?_, nofun, ?_, ?_, fun _ _ _ => trivial⟩
    · rintro h (hh | hh)
      · obtain rfl := Option.some.inj hh
        exact fun _ _ _ _ _ => ⟨rfl, trivial⟩
      · cases hh
    · rintro h (hh | hh) <;> cases hh
    · rintro h (hh | hh) <;> cases hh
  have hdecode : Frame.decode message = .message none .null :=
    Frame.decode_encode_of_portable Frame.Kind.noConfusion
      (by simp [Frame.Portable, Frame.body, Frame.nullable])
  have hharmless : (begun []).dispatcher.Harmless (Frame.decode message) := by
    rw [hdecode]
    intro why h
    cases h
  obtain ⟨-, hend, -, -, hin, hout⟩ := run_without_harmless ⟨some "a", [], [], []⟩ l hforgetful () 3 3
    (.installed (channel [message, farewell])) (.installed (channel [farewell]))
    (s := begun [message, farewell]) (r := begun [farewell]) rfl rfl o [] [farewell] message rfl rfl rfl
    rfl rfl rfl hharmless
  refine ⟨hend, hin, hout.trans ?_⟩
  rw [hdecode]
  rfl

end Session

end ScriptLink
