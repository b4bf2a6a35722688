import ScriptLink.Proofs.Channel.Transport
import ScriptLink.Proofs.Frame.RoundTrip
import ScriptLink.Proofs.Session.Beginning
import ScriptLink.Proofs.Session.Replies

/-!
# ScriptLink.Proofs.Session.Transcript — a session is what its dispatcher makes of the lines

* `Dispatcher.transcribe` says, without any channel, what is written and what becomes of the session
  when lines are dispatched in order: each is answered before the next is taken.
* `pumpFor_transcribes`: over a transport whose writes succeed, a session does just that.
* `stopped_transcribe`: a transcript that stops has one shutdown and one acknowledgement, both last.
* `run_transcribes` puts these together for a session from its beginning to its end.
-/

namespace ScriptLink

/-- What becomes of lines that are dispatched in order. -/
structure Transcript (σ : Type) where
  /-- The frames that answered them. -/
  written : List Frame
  /-- How many lines were taken. -/
  read : Nat
  /-- The dispatcher in the end. -/
  final : Dispatcher σ
  /-- How the session ended; nothing if the lines ran out before. -/
  ending : Option Ending

/-- How a session ends for which there is no line. -/
def Reading.ending : Reading → Ending
  | .failed e => .failed (.channel e)
  | _ => .waiting

namespace Dispatcher

/-! ## Transcripts -/

/-- Dispatches lines in order, of which the first is preceded by `n` others, up to the first that stops
the session or fails fatally. -/
def transcribe (clock : Nat → UInt64) : Nat → List String → Dispatcher σ → Transcript σ
  | n, [], d => ⟨[], n, d, none⟩
  | n, line :: rest, d =>
    let r := d.dispatch (clock n) (Frame.decode line)
    let later := transcribe clock (n + 1) rest r.next
    match r.verdict with
    | .stop => ⟨r.replies, n + 1, r.next, some .stopped⟩
    | .failure (.fatal why) => ⟨r.replies, n + 1, r.next, some (.failed (.fatal why))⟩
    | .failure (.failed _) => { later with written := r.replies ++ later.written }
    | .proceed => { later with written := r.replies ++ later.written }

section

variable {clock : Nat → UInt64} {n : Nat} {line : String} {rest : List String} {d : Dispatcher σ}

/-- A line that ends the session is the last. -/
theorem transcribe_of_some {e : Ending}
    (h : (d.dispatch (clock n) (Frame.decode line)).verdict.ending? = some e) :
    d.transcribe clock n (line :: rest) =
      ⟨(d.dispatch (clock n) (Frame.decode line)).replies, n + 1,
        (d.dispatch (clock n) (Frame.decode line)).next, some e⟩ := by
  rw [transcribe]
  cases hv : (d.dispatch (clock n) (Frame.decode line)).verdict with
  | proceed =>
    rw [hv] at h
    cases h
  | stop =>
    rw [hv] at h
    cases h
    rfl
  | failure f =>
    rw [hv] at h
    cases f with
    | failed why => cases h
    | fatal why =>
      cases h
      rfl

/-- After any other line comes what becomes of those behind it. -/
theorem transcribe_of_none
    (h : (d.dispatch (clock n) (Frame.decode line)).verdict.ending? = none) :
    d.transcribe clock n (line :: rest) =
      { (d.dispatch (clock n) (Frame.decode line)).next.transcribe clock (n + 1) rest with
        written := (d.dispatch (clock n) (Frame.decode line)).replies ++
          ((d.dispatch (clock n) (Frame.decode line)).next.transcribe clock (n + 1) rest).written }
    := by
  rw [transcribe]
  cases hv : (d.dispatch (clock n) (Frame.decode line)).verdict with
  | proceed => rfl
  | stop =>
    rw [hv] at h
    cases h
  | failure f =>
    rw [hv] at h
    cases f with
    | failed why => rfl
    | fatal why => cases h

end

/-! ## Shutdowns -/

theorem stop_iff_shutdown (now : UInt64) (f : Frame) (d : Dispatcher σ) :
    (d.dispatch now f).verdict.ending? = some .stopped ↔ f.kind = .shutdown := by
  rw [← verdict_stop_iff now f d]
  cases (d.dispatch now f).verdict with
  | proceed => simp [Verdict.ending?]
  | stop => simp [Verdict.ending?]
  | failure e => cases e <;> simp [Verdict.ending?]

/-- No frame answers with a ready frame. -/
theorem kind_ne_ready {now : UInt64} {f g : Frame} {d : Dispatcher σ}
    (hg : g ∈ (d.dispatch now f).replies) : g.kind ≠ .ready := by
  have h := (answers_of_mem_replies hg).kind
  intro hr
  rw [hr] at h
  cases hk : f.kind <;> rw [hk] at h <;> simp [answerKinds] at h

theorem ready_transcribe (clock : Nat → UInt64) (n : Nat) (lines : List String)
    (d : Dispatcher σ) : ∀ f ∈ (d.transcribe clock n lines).written, f.kind ≠ .ready := by
  induction lines generalizing n d with
  | nil => exact fun f hf => absurd hf List.not_mem_nil
  | cons line rest ih =>
    intro f hf
    cases hv : (d.dispatch (clock n) (Frame.decode line)).verdict.ending? with
    | some e =>
      rw [transcribe_of_some hv] at hf
      exact kind_ne_ready hf
    | none =>
      rw [transcribe_of_none hv] at hf
      rcases List.mem_append.mp hf with hf | hf
      · exact kind_ne_ready hf
      · exact ih _ _ f hf

/-- What is known of the lines and the answers when a session stops. -/
structure StopsAt (n : Nat) (lines : List String) (t : Transcript σ) : Prop where
  /-- The last answer acknowledges the shutdown, and no other does. -/
  acknowledged : ∃ answers, t.written = answers ++ [.shutdownAck (t.final.report 0 0).reason] ∧
    ∀ f ∈ answers, f.kind ≠ .shutdownAck
  /-- The last line taken is the first shutdown. -/
  position : ∃ before line later, lines = before ++ line :: later ∧
    (Frame.decode line).kind = .shutdown ∧
    (∀ other ∈ before, (Frame.decode other).kind ≠ .shutdown) ∧ t.read = n + before.length + 1

theorem stopped_transcribe {clock : Nat → UInt64} {n : Nat} {lines : List String}
    {d : Dispatcher σ} (h : (d.transcribe clock n lines).ending = some .stopped) :
    StopsAt n lines (d.transcribe clock n lines) := by
  induction lines generalizing n d with
  | nil => cases h
  | cons line rest ih =>
    have hstop := d.stop_iff_shutdown (clock n) (Frame.decode line)
    cases hv : (d.dispatch (clock n) (Frame.decode line)).verdict.ending? with
    | some e =>
      rw [transcribe_of_some hv] at h ⊢
      have he : e = .stopped := Option.some.inj h
      subst he
      have hk := hstop.mp hv
      obtain ⟨reason, hf⟩ := eq_shutdown hk
      refine ⟨⟨[], ?_, fun f hf => absurd hf List.not_mem_nil⟩,
        ⟨[], line, rest, rfl, hk, fun o ho => absurd ho List.not_mem_nil, rfl⟩⟩
      rw [hf]
      rfl
    | none =>
      rw [transcribe_of_none hv] at h ⊢
      have hk : (Frame.decode line).kind ≠ .shutdown := by
        intro hk
        rw [hstop.mpr hk] at hv
        cases hv
      obtain ⟨⟨answers, hw, ha⟩, ⟨before, last, later, hl, hlast, hb, hr⟩⟩ := ih h
      refine ⟨⟨(d.dispatch (clock n) (Frame.decode line)).replies ++ answers, ?_, ?_⟩,
        ⟨line :: before, last, later, ?_, hlast, ?_, ?_⟩⟩
      · show _ ++ _ = _
        rw [hw, List.append_assoc]
      · intro f hf
        rcases List.mem_append.mp hf with hf | hf
        · exact kind_ne_shutdownAck hk hf
        · exact ha f hf
      · rw [hl, List.cons_append]
      · intro o ho
        rcases List.mem_cons.mp ho with rfl | ho
        · exact hk
        · exact hb o ho
      · show _ = _
        rw [hr, List.length_cons]
        omega

end Dispatcher

namespace Session

/-! ## Writing -/

/-- The session `s` after it wrote the frames is `s'`. -/
structure Wrote (limit : Option Nat) (frames : List Frame) (s s' : Session σ) : Prop where
  transport : Transport.Sends limit (frames.map Frame.encode) s.handle.transport s'.handle.transport
  dispatcher : s'.dispatcher = s.dispatcher
  framesIn : s'.framesIn = s.framesIn
  framesOut : s'.framesOut = s.framesOut + frames.length

/-- A frame is written where the transport accepts it. -/
theorem write_of_accepts {s : Session σ} {n : Nat} (limit : Option Nat) (f : Frame)
    (h : s.handle.transport.Accepts (n + 1)) :
    ∃ s', s.write f = (none, s') ∧ Wrote limit [f] s s' := by
  obtain ⟨t, hs, ht⟩ := Transport.send_of_accepts limit f.encode h
  refine ⟨{ s.withTransport t with framesOut := s.framesOut + 1 }, ?_, ht, rfl, rfl, rfl⟩
  unfold write
  rw [hs]

theorem writeAll_of_accepts {frames : List Frame} {s : Session σ} {n : Nat} (limit : Option Nat)
    (h : s.handle.transport.Accepts (frames.length + n)) :
    ∃ s', s.writeAll frames = (none, s') ∧ Wrote limit frames s s' := by
  induction frames generalizing s with
  | nil => exact ⟨s, rfl, Transport.Sends.refl limit _, rfl, rfl, rfl⟩
  | cons f rest ih =>
    rw [List.length_cons, Nat.add_right_comm] at h
    obtain ⟨u, hu, hw⟩ := write_of_accepts limit f h
    have ha : u.handle.transport.Accepts (rest.length + n) :=
      hw.transport.accepts _ (by rwa [List.length_map, List.length_singleton, Nat.add_comm])
    obtain ⟨v, hv, hr⟩ := ih ha
    refine ⟨v, ?_, hw.transport.trans hr.transport, hr.dispatcher.trans hw.dispatcher,
      hr.framesIn.trans hw.framesIn, ?_⟩
    · rw [writeAll, hu]
      exact hv
    · rw [hr.framesOut, hw.framesOut, List.length_singleton, List.length_cons]
      omega

/-! ## Running -/

/-- The session `after` has come from `s` by way of a transcript. -/
structure Follows (t : Transcript σ) (s after : Session σ) : Prop where
  written : after.handle.transport.written =
    s.handle.transport.written ++ t.written.map Frame.encode
  dispatcher : after.dispatcher = t.final
  framesIn : after.framesIn = t.read
  framesOut : after.framesOut = s.framesOut + t.written.length

/-- A line is answered by what the dispatcher answers. -/
theorem turn_of_accepts {s : Session σ} {n : Nat} (o : Options) (line : String)
    (h : s.handle.transport.Accepts ((s.dispatcher.dispatch (o.clock s.framesIn)
      (Frame.decode line)).replies.length + n)) :
    ∃ s', s.turn o line = ((s.dispatcher.dispatch (o.clock s.framesIn)
        (Frame.decode line)).verdict.ending?, s') ∧
      Wrote o.limit (s.dispatcher.dispatch (o.clock s.framesIn) (Frame.decode line)).replies
        (s.taking (s.dispatcher.dispatch (o.clock s.framesIn) (Frame.decode line))) s' := by
  obtain ⟨s', hw, hs⟩ := writeAll_of_accepts
    (s := s.taking (s.dispatcher.dispatch (o.clock s.framesIn) (Frame.decode line))) o.limit h
  refine ⟨s', ?_, hs⟩
  unfold turn
  dsimp only
  rw [hw]

theorem pumpFor_of_some {o : Options} {n : Nat} {line : String} {s u v : Session σ} {e : Ending}
    (hr : s.read o.limit = (.line line, u)) (ht : u.turn o line = (some e, v)) :
    s.pumpFor o (n + 1) = (e, v) := by
  rw [pumpFor, hr]
  simp only [ht]

theorem pumpFor_of_none {o : Options} {n : Nat} {line : String} {s u v : Session σ}
    (hr : s.read o.limit = (.line line, u)) (ht : u.turn o line = (none, v)) :
    s.pumpFor o (n + 1) = v.pumpFor o n := by
  rw [pumpFor, hr]
  simp only [ht]

/-- A session answers the lines of its transport as its transcript says, and ends in the way of what
comes after them if nothing ends it before. -/
theorem pumpFor_transcribes (o : Options) {lines : List String} {n : Nat} {s : Session σ}
    (hn : lines.length < n) (hl : s.handle.transport.lines = lines)
    (ha : s.handle.transport.Accepts
      (s.dispatcher.transcribe o.clock s.framesIn lines).written.length) :
    ∃ after, s.pumpFor o n =
        (((s.dispatcher.transcribe o.clock s.framesIn lines).ending.getD
          (s.handle.transport.tail o.limit).ending), after) ∧
      Follows (s.dispatcher.transcribe o.clock s.framesIn lines) s after := by
  induction lines generalizing n s with
  | nil =>
    obtain ⟨m, rfl⟩ : ∃ m, n = m + 1 := ⟨n - 1, by omega⟩
    obtain ⟨t, hr, hw⟩ := Transport.receive_of_nil o.limit hl
    refine ⟨s.withTransport t, ?_, ?_, rfl, rfl, rfl⟩
    · rw [pumpFor, read, hr]
      have hline := s.handle.transport.tail_ne_line o.limit
      cases ht : s.handle.transport.tail o.limit with
      | line text => exact absurd ht (hline text)
      | failed e => rfl
      | waiting => rfl
    · exact hw.trans (List.append_nil _).symm
  | cons line rest ih =>
    obtain ⟨m, rfl⟩ : ∃ m, n = m + 1 := ⟨n - 1, by omega⟩
    obtain ⟨t, hr, hlines, htail, hwritten, haccepts⟩ := Transport.receive_of_cons o.limit hl
    have hread : s.read o.limit = (.line line, s.withTransport t) := by
      unfold read
      rw [hr]
    cases hv : (s.dispatcher.dispatch (o.clock s.framesIn) (Frame.decode line)).verdict.ending? with
    | some e =>
      rw [Dispatcher.transcribe_of_some hv] at ha ⊢
      obtain ⟨u, ht, hs⟩ := turn_of_accepts (s := s.withTransport t) (n := 0) o line
        (haccepts _ ha)
      refine ⟨u, pumpFor_of_some hread (ht.trans (congrArg (·, u) hv)), ?_, hs.dispatcher,
        hs.framesIn, hs.framesOut⟩
      rw [hs.transport.written, ← hwritten]
      rfl
    | none =>
      rw [Dispatcher.transcribe_of_none hv] at ha ⊢
      rw [List.length_append] at ha
      obtain ⟨u, ht, hs⟩ := turn_of_accepts (s := s.withTransport t) o line (haccepts _ ha)
      have hd : u.dispatcher =
          (s.dispatcher.dispatch (o.clock s.framesIn) (Frame.decode line)).next := hs.dispatcher
      have hf : u.framesIn = s.framesIn + 1 := hs.framesIn
      -- a turn that writes takes no line, so what is left to be read is the rest
      have hul : u.handle.transport.lines = rest := hs.transport.lines.trans hlines
      have hut : u.handle.transport.tail o.limit = s.handle.transport.tail o.limit :=
        hs.transport.tail.trans htail
      have hua := hs.transport.accepts _ (by rw [List.length_map]; exact haccepts _ ha)
      rw [← hd, ← hf] at hua ⊢
      obtain ⟨after, hp, hfollows⟩ := ih (n := m) (Nat.lt_of_succ_lt_succ hn) hul hua
      refine ⟨after, ?_, ?_, hfollows.dispatcher, hfollows.framesIn, ?_⟩
      · rw [pumpFor_of_none hread (ht.trans (congrArg (·, u) hv)), hp, hut]
      · rw [hfollows.written, hs.transport.written, List.map_append, ← List.append_assoc,
          ← hwritten]
        rfl
      · rw [hfollows.framesOut, hs.framesOut, List.length_append, ← Nat.add_assoc]
        rfl

theorem bootstrap_counters {seed : Seed} {l : Loader σ} {memory : σ} {rid : UInt32}
    {slot : Slot Transport} {s : Session σ} (h : (bootstrap seed l memory rid slot).1 = .ok s) :
    s.framesIn = 0 ∧ s.framesOut = 0 := by
  obtain ⟨d, handle, after, -, -, rfl⟩ := of_bootstrap h
  exact ⟨rfl, rfl⟩

/-- **Transcripts of sessions**: over a transport whose writes succeed, a session writes the ready
frame and then answers the lines in order, each with the answers of its dispatcher to just that line;
it ends with the first that stops it or fails fatally, or else with what comes after the lines. If it
stops, the ready frame is the first and the acknowledgement the last of its kind, the report has the
reason that was acknowledged, and its counters are the position of the first shutdown and the number of
lines written. -/
theorem run_transcribes (seed : Seed) (l : Loader σ) (memory : σ) (rid : UInt32)
    (slot : Slot Transport) {s : Session σ} (h : (bootstrap seed l memory rid slot).1 = .ok s)
    (o : Options) (ha : s.handle.transport.Accepts
      ((s.dispatcher.transcribe o.clock 0 s.handle.transport.lines).written.length + 1)) :
    let t := s.dispatcher.transcribe o.clock 0 s.handle.transport.lines
    ∃ after, s.run o = (t.ending.getD (s.handle.transport.tail o.limit).ending, after) ∧
      after.handle.transport.written =
        s.handle.transport.written ++ (s.dispatcher.ready :: t.written).map Frame.encode ∧
      after.dispatcher = t.final ∧ after.framesIn = t.read ∧
      after.framesOut = (s.dispatcher.ready :: t.written).length ∧
      ((s.run o).1 = .stopped →
        (∀ f ∈ t.written, f.kind ≠ .ready) ∧
        (∃ answers, t.written = answers ++ [.shutdownAck (Report.of after).reason] ∧
          ∀ f ∈ answers, f.kind ≠ .shutdownAck) ∧
        (∃ before line later, s.handle.transport.lines = before ++ line :: later ∧
          (Frame.decode line).kind = .shutdown ∧
          (∀ other ∈ before, (Frame.decode other).kind ≠ .shutdown) ∧
          (Report.of after).framesIn = before.length + 1) ∧
        (Report.of after).framesOut = (s.dispatcher.ready :: t.written).length) := by
  intro t
  obtain ⟨hin, hout⟩ := bootstrap_counters h
  obtain ⟨u, hw, hs⟩ := write_of_accepts o.limit s.dispatcher.ready ha
  have hin' : u.framesIn = 0 := hs.framesIn.trans hin
  have hua : u.handle.transport.Accepts t.written.length :=
    hs.transport.accepts _ (by rw [List.length_map, List.length_singleton, Nat.add_comm]; exact ha)
  -- the pump has a turn for every line
  have hn : s.handle.transport.lines.length < u.pending + 1 := by
    have := u.handle.transport.length_lines_le
    rw [hs.transport.lines] at this
    exact Nat.lt_succ_of_le this
  obtain ⟨after, hp, hf⟩ := pumpFor_transcribes o hn hs.transport.lines
    (by rw [hs.dispatcher, hin']; exact hua)
  rw [hs.dispatcher, hin', hs.transport.tail] at hp
  rw [hs.dispatcher, hin'] at hf
  have hrun : s.run o = (t.ending.getD (s.handle.transport.tail o.limit).ending, after) := by
    unfold run
    rw [hw]
    exact hp
  have hframes : after.framesOut = (s.dispatcher.ready :: t.written).length := by
    rw [hf.framesOut, hs.framesOut, hout, List.length_singleton, List.length_cons, Nat.zero_add,
      Nat.add_comm]
  refine ⟨after, hrun, ?_, hf.dispatcher, hf.framesIn, hframes, fun hstop => ?_⟩
  · rw [hf.written, hs.transport.written, List.append_assoc]
    rfl
  · have hending : t.ending = some .stopped := by
      rw [hrun] at hstop
      cases he : t.ending with
      | some e =>
        rw [he] at hstop
        exact congrArg some hstop
      | none =>
        rw [he] at hstop
        have htail : (s.handle.transport.tail o.limit).ending = .stopped := hstop
        unfold Reading.ending at htail
        split at htail <;> cases htail
    have hstops := Dispatcher.stopped_transcribe hending
    have hreport : (Report.of after).reason = (t.final.report 0 0).reason := by
      unfold Report.of
      rw [hf.dispatcher]
      rfl
    obtain ⟨before, line, later, hlines, hk, hb, hread⟩ := hstops.position
    refine ⟨s.dispatcher.ready_transcribe o.clock 0 _, ?_, ⟨before, line, later, hlines, hk, hb, ?_⟩,
      hframes⟩
    · rw [hreport]
      exact hstops.acknowledged
    · rw [Nat.zero_add] at hread
      exact hf.framesIn.trans hread

/-- A session answers the ping before a shutdown and stops with the acknowledgement; the line behind the shutdown
stays where it is. -/
theorem run_transcribes_shutdown :
    let l : Loader Unit := ⟨.ofFind fun _ => .ok {}, []⟩
    let ping := Frame.ping (some (.ofNat 1))
    let t : Transport :=
      .memory ⟨⟨[ping.encode, (Frame.shutdown none).encode, ping.encode], true, true⟩, .empty⟩
    let d := Dispatcher.ofTarget l ⟨"a", [], [], []⟩ ⟨["a"], ()⟩ {}
    let s : Session Unit := ⟨⟨3, t⟩, d, 0, 0⟩
    (bootstrap ⟨some "a", [], [], []⟩ l () 3 (.installed t)).1 = .ok s ∧
    ∃ after, s.run ⟨none, fun _ => 7⟩ = (.stopped, after) ∧
      after.handle.transport.written =
        [d.ready, .pong (.ofNat 1) 7, (Ledger.greeting (some (.ofNat 1)) 7).frame,
          .shutdownAck "requested"].map Frame.encode ∧
      after.framesIn = 2 ∧ after.framesOut = 4 := by
  intro l ping t d s
  have h : (bootstrap ⟨some "a", [], [], []⟩ l () 3 (.installed t)).1 = .ok s := rfl
  have hp : Frame.decode ping.encode = ping :=
    Frame.decode_encode_of_legible (by decide) (by decide) (by
      intro m hm
      have hm' : m ∈ [("type", Value.str "ping"), ("seq", .ofNat 1)] := hm
      rcases hm' with _ | ⟨_, _ | ⟨_, ⟨⟩⟩⟩ <;> rfl)
  have hd : Frame.decode (Frame.shutdown none).encode = .shutdown none :=
    Frame.decode_encode_of_legible (by decide) (by decide) (by
      intro m hm
      rw [List.mem_singleton.mp hm]
      rfl)
  have ht : s.dispatcher.transcribe (fun _ => 7) 0 s.handle.transport.lines =
      ⟨[.pong (.ofNat 1) 7, (Ledger.greeting (some (.ofNat 1)) 7).frame, .shutdownAck "requested"], 2,
        { d with calls := d.calls.greet (some (.ofNat 1)) 7, phase := .shuttingDown "requested" },
        some .stopped⟩ := by
    show d.transcribe (fun _ => 7) 0 [ping.encode, (Frame.shutdown none).encode, ping.encode] = _
    rw [Dispatcher.transcribe, hp, Dispatcher.transcribe, hd]
    rfl
  obtain ⟨after, hrun, hwritten, -, hin, hout, -⟩ :=
    run_transcribes ⟨some "a", [], [], []⟩ l () 3 (.installed t) h ⟨none, fun _ => 7⟩ rfl
  rw [ht] at hrun hwritten hin hout
  exact ⟨h, after, hrun, hwritten, hin, hout⟩

end Session

end ScriptLink
