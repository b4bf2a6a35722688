import ScriptLink.Proofs.Channel.Stream
import ScriptLink.Proofs.Session.Isolation

/-!
# ScriptLink.Proofs.Session.Medium — one session over several channels

* `Session.result?` is what a session comes to, a report or a fault, and `Session.output` what it wrote.
* `run_congr`: sessions alike that get lines which are decoded alike come to the same, whatever carries
  these lines.
* `run_carried`: a stream of terminated lines and a queue of lines make no difference to a session.
* `Transport.Fills n` says that `n` more writes succeed and the next one fails; `run_overflows` is what
  becomes of a session that has more to write. `run_cut_short`: a writer that fails after `n` lines gets the
  first `n` lines of the session, which then fails if it had more to write.
-/

namespace ScriptLink

/-! ## Results -/

/-- What a session that ended comes to. -/
def Ending.result? (report : Report) : Ending → Option (Except SessionFault Report)
  | .stopped => some (.ok report)
  | .failed f => some (.error f)
  | .waiting => none

namespace Session

/-- What a session comes to; nothing if it waits for lines without end. -/
def result? (o : Options) (s : Session σ) : Option (Except SessionFault Report) :=
  (s.run o).1.result? (Report.of (s.run o).2)

/-- The lines that a session writes. -/
def output (o : Options) (s : Session σ) : List String :=
  (s.run o).2.handle.transport.written

/-- A session begins over a channel that was installed just if its dispatcher does. -/
theorem bootstrap_installed (seed : Seed) (l : Loader σ) (memory : σ) (rid : UInt32)
    (t : Transport) : (bootstrap seed l memory rid (.installed t)).1 =
      (Dispatcher.bootstrap seed l memory).1.map fun d => ⟨⟨rid, t⟩, d, 0, 0⟩ := by
  unfold bootstrap
  split <;> rename_i h <;> rw [h] <;> rfl

end Session

/-! ## Lines that are decoded alike -/

/-- A transcript depends on the frames of the lines only. -/
theorem Dispatcher.transcribe_congr (clock : Nat → UInt64) (n : Nat) (d : Dispatcher σ)
    {lines others : List String} (h : lines.map Frame.decode = others.map Frame.decode) :
    d.transcribe clock n lines = d.transcribe clock n others := by
  induction lines generalizing n others d with
  | nil =>
    cases others with
    | nil => rfl
    | cons other rest => cases h
  | cons line lines ih =>
    cases others with
    | nil => cases h
    | cons other others =>
      obtain ⟨hline, hrest⟩ := List.cons.inj h
      rw [transcribe, transcribe, hline, ih _ _ hrest]

/-- A transcript begins with the replies to the first line. -/
theorem Dispatcher.written_cons (clock : Nat → UInt64) (n : Nat) (line : String)
    (rest : List String) (d : Dispatcher σ) :
    ∃ later, (d.transcribe clock n (line :: rest)).written =
      (d.dispatch (clock n) (Frame.decode line)).replies ++ later := by
  cases hv : (d.dispatch (clock n) (Frame.decode line)).verdict.ending? with
  | none =>
    rw [transcribe_of_none hv]
    exact ⟨_, rfl⟩
  | some e =>
    rw [transcribe_of_some hv]
    exact ⟨[], (List.append_nil _).symm⟩

namespace Session

/-- Sessions alike that get lines which are decoded alike end in the same way with the same report, and
write the same after what their channels held before. -/
theorem run_congr {s r : Session σ} (o : Options) (hs : s.framesIn = 0) (hr : r.framesIn = 0)
    (hout : s.framesOut = r.framesOut) (hd : s.dispatcher = r.dispatcher)
    (hlines : s.handle.transport.lines.map Frame.decode =
      r.handle.transport.lines.map Frame.decode)
    (htail : s.handle.transport.tail o.limit = r.handle.transport.tail o.limit)
    (hsa : s.handle.transport.Accepts
      ((s.dispatcher.transcribe o.clock 0 s.handle.transport.lines).written.length + 1))
    (hra : r.handle.transport.Accepts
      ((s.dispatcher.transcribe o.clock 0 s.handle.transport.lines).written.length + 1)) :
    s.result? o = r.result? o ∧ ∃ texts, s.output o = s.handle.transport.written ++ texts ∧
      r.output o = r.handle.transport.written ++ texts := by
  have hsame := Dispatcher.transcribe_congr o.clock 0 s.dispatcher hlines
  obtain ⟨hse, hsf⟩ := run_follows hs o hsa
  obtain ⟨hre, hrf⟩ := run_follows hr o (by rw [← hd, ← hsame]; exact hra)
  rw [← hd, ← hsame] at hre hrf
  have hending : (s.run o).1 = (r.run o).1 := by rw [hse, hre, htail]
  have hreport : Report.of (s.run o).2 = Report.of (r.run o).2 := by
    unfold Report.of
    rw [hsf.dispatcher, hrf.dispatcher, hsf.framesIn, hrf.framesIn, hsf.framesOut, hrf.framesOut,
      hout]
  refine ⟨?_, _, hsf.written, hrf.written⟩
  unfold result?
  rw [hending, hreport]

end Session

/-- A transcript does not end with a session that waits. -/
theorem Dispatcher.transcribe_ne_waiting (clock : Nat → UInt64) (n : Nat) (lines : List String)
    (d : Dispatcher σ) : (d.transcribe clock n lines).ending ≠ some .waiting := by
  induction lines generalizing n d with
  | nil => exact nofun
  | cons line rest ih =>
    cases hv : (d.dispatch (clock n) (Frame.decode line)).verdict.ending? with
    | none =>
      rw [transcribe_of_none hv]
      exact ih _ _
    | some e =>
      rw [transcribe_of_some hv]
      rintro ⟨⟩
      cases hw : (d.dispatch (clock n) (Frame.decode line)).verdict with
      | proceed => simp [hw, Verdict.ending?] at hv
      | stop => simp [hw, Verdict.ending?] at hv
      | failure f => cases f <;> simp [hw, Verdict.ending?] at hv

namespace Session

/-- A session over a channel that is closed after the lines comes to something. -/
theorem exists_result {s : Session σ} {o : Options} (hs : s.framesIn = 0) {e : ChannelError}
    (htail : s.handle.transport.tail o.limit = .failed e)
    (ha : s.handle.transport.Accepts
      ((s.dispatcher.transcribe o.clock 0 s.handle.transport.lines).written.length + 1)) :
    ∃ result, s.result? o = some result := by
  have hending := (run_follows hs o ha).1
  have hne := s.dispatcher.transcribe_ne_waiting o.clock 0 s.handle.transport.lines
  unfold result?
  rw [hending, htail]
  cases he : (s.dispatcher.transcribe o.clock 0 s.handle.transport.lines).ending with
  | none => exact ⟨_, rfl⟩
  | some ending =>
    cases ending with
    | stopped => exact ⟨_, rfl⟩
    | failed f => exact ⟨_, rfl⟩
    | waiting => exact absurd he hne

end Session

/-! ## Streams and queues -/

/-- The carriage return that a stream takes away means nothing to a frame. -/
theorem Frame.decode_withoutReturn (line : String) :
    decode (Stream.withoutReturn line) = decode line := by
  have hend : withoutEnd (Stream.withoutReturn line) = withoutEnd line := by
    unfold Stream.withoutReturn
    by_cases h : line.toList.getLast? = some '\r'
    · obtain ⟨cs, hcs⟩ := List.getLast?_eq_some_iff.mp h
      have hr : isLineEnd '\r' = true := rfl
      rw [if_pos h, hcs, List.dropLast_concat]
      unfold withoutEnd Text.stripEndBy
      rw [hcs, String.toList_ofList, List.reverse_append, List.reverse_singleton,
        List.singleton_append, List.dropWhile_cons_of_pos hr]
    · rw [if_neg h]
  unfold decode
  rw [hend]

/-- The channel of a host that sent lines. -/
def Pair.sent (lines : List String) : Pair :=
  lines.foldl (fun p line => (p.hostSend line).2) .empty

theorem Pair.sent_eq (lines : List String) : sent lines = ⟨⟨lines, true, true⟩, .empty⟩ := by
  have hafter : ∀ before : List String,
      lines.foldl (fun p line => (p.hostSend line).2) ⟨⟨before, true, true⟩, .empty⟩ =
        (⟨⟨before ++ lines, true, true⟩, .empty⟩ : Pair) := by
    induction lines with
    | nil => simp
    | cons line rest ih =>
      intro before
      have hsend : (Pair.hostSend line ⟨⟨before, true, true⟩, .empty⟩).2 =
          ⟨⟨before ++ [line], true, true⟩, .empty⟩ := rfl
      rw [List.foldl_cons, hsend, ih, List.append_assoc, List.singleton_append]
  exact hafter []

namespace Session

/-- **What carries the lines makes no difference**: a session over a stream of lines that are followed by
line feeds, and one over a channel whose host sent the same lines and then stopped sending, begin or fail
alike, write the same lines and come to the same. -/
theorem run_carried (seed : Seed) (l : Loader σ) (memory : σ) (rid rid' : UInt32) (o : Options)
    {lines : List String} (h : ∀ line ∈ lines, '\n' ∉ line.toList) :
    let stream : Transport := .stream (.ofBytes (Stream.terminated lines) none)
    let queue : Transport := .memory (Pair.sent lines).hostCloseSender
    (∃ f, (bootstrap seed l memory rid (.installed stream)).1 = .error f ∧
      (bootstrap seed l memory rid' (.installed queue)).1 = .error f) ∨
    ∃ s r result, (bootstrap seed l memory rid (.installed stream)).1 = .ok s ∧
      (bootstrap seed l memory rid' (.installed queue)).1 = .ok r ∧
      s.result? o = some result ∧ r.result? o = some result ∧ s.output o = r.output o := by
  intro stream queue
  rw [bootstrap_installed, bootstrap_installed]
  cases (Dispatcher.bootstrap seed l memory).1 with
  | error f => exact Or.inl ⟨f, rfl, rfl⟩
  | ok d =>
    have hstream : stream = .stream ⟨(lines.map Stream.withoutReturn).map .ok, .empty none⟩ := by
      rw [← Stream.arrivals_terminated h]
      rfl
    have hqueue : queue = .memory ⟨⟨lines, false, true⟩, .empty⟩ := by
      show Transport.memory (Pair.sent lines).hostCloseSender = _
      rw [Pair.sent_eq]
      rfl
    have hlines : stream.lines.map Frame.decode = queue.lines.map Frame.decode := by
      rw [hstream, hqueue]
      show (Stream.linesOf _).map Frame.decode = lines.map Frame.decode
      rw [Stream.linesOf_map_ok, List.map_map]
      exact List.map_congr_left fun line _ => Frame.decode_withoutReturn line
    have hstail : stream.tail o.limit = .failed .closed := by
      rw [hstream]
      exact Stream.tailOf_map_ok _
    have hqtail : queue.tail o.limit = .failed .closed := rfl
    obtain ⟨hresult, texts, hs, hr⟩ := run_congr (s := ⟨⟨rid, stream⟩, d, 0, 0⟩)
      (r := ⟨⟨rid', queue⟩, d, 0, 0⟩) o rfl rfl rfl rfl hlines (hstail.trans hqtail.symm) nofun
      (by rw [hqueue]; exact rfl)
    obtain ⟨result, hsome⟩ :=
      exists_result (s := ⟨⟨rid, stream⟩, d, 0, 0⟩) (o := o) rfl hstail nofun
    have hnone : queue.written = stream.written := by
      rw [hqueue]
      rfl
    refine Or.inr ⟨_, _, result, rfl, rfl, hsome, hresult ▸ hsome, ?_⟩
    rw [hs, hr]
    exact congrArg (· ++ texts) hnone.symm

/-- A stream takes the carriage return away before the shutdown is read, a queue leaves it there, and both
sessions stop. -/
theorem run_carried_return :
    let l : Loader Unit := ⟨.ofFind fun _ => .ok {}, []⟩
    let seed : Seed := ⟨some "a", [], [], []⟩
    let o : Options := ⟨none, fun _ => 0⟩
    let lines := [(Frame.shutdown none).encode ++ "\r"]
    (∀ line ∈ lines, '\n' ∉ line.toList) ∧
    ∃ s r report, (bootstrap seed l () 1
        (.installed (.stream (.ofBytes (Stream.terminated lines) none)))).1 = .ok s ∧
      (bootstrap seed l () 2 (.installed (.memory (Pair.sent lines).hostCloseSender))).1 = .ok r ∧
      s.result? o = some (.ok report) ∧ r.result? o = some (.ok report) ∧
      report.reason = "requested" ∧ s.output o = r.output o := by
  intro l seed o lines
  have hlines : ∀ line ∈ lines, '\n' ∉ line.toList := by
    intro line hl
    obtain rfl := List.mem_singleton.mp hl
    decide +kernel
  let d := Dispatcher.ofTarget l ⟨"a", [], [], []⟩ ⟨["a"], ()⟩ {}
  let queue : Transport := .memory (Pair.sent lines).hostCloseSender
  have hbegun (rid : UInt32) (t : Transport) :
      (bootstrap seed l () rid (.installed t)).1 = .ok ⟨⟨rid, t⟩, d, 0, 0⟩ := rfl
  have hdecode : Frame.decode ((Frame.shutdown none).encode ++ "\r") = .shutdown none := by
    have hreturn : Stream.withoutReturn ((Frame.shutdown none).encode ++ "\r") =
        (Frame.shutdown none).encode := by decide +kernel
    rw [← Frame.decode_withoutReturn, hreturn]
    exact Frame.decode_encode_of_legible (by decide) (by decide)
      (by simp [Frame.members, Frame.body, Frame.omitted, Value.Legible, Value.reread])
  have ht : d.transcribe o.clock 0 lines = ⟨[.shutdownAck "requested"], 1,
      { d with phase := .shuttingDown "requested" }, some .stopped⟩ := by
    rw [Dispatcher.transcribe, hdecode]
    rfl
  rcases run_carried seed l () 1 2 o hlines with ⟨f, hf, -⟩ | ⟨s, r, result, hs, hr, hsr, hrr, hout⟩
  · rw [hbegun] at hf
    cases hf
  · obtain rfl : ⟨⟨2, queue⟩, d, 0, 0⟩ = r := Except.ok.inj ((hbegun 2 queue).symm.trans hr)
    obtain ⟨hend, hfollows⟩ := run_follows (s := ⟨⟨2, queue⟩, d, 0, 0⟩) rfl o rfl
    have hq : queue.lines = lines := rfl
    rw [hq, ht] at hend hfollows
    have hresult := hrr
    rw [result?, hend] at hresult
    obtain rfl : Except.ok (Report.of _) = result := Option.some.inj hresult
    refine ⟨hlines, s, _, _, hs, hr, hsr, hrr, ?_, hout⟩
    rw [Report.of, hfollows.dispatcher]
    rfl

/-! ## Limited writers -/

theorem fills_write {s : Session σ} {n : Nat} (h : s.handle.transport.Fills (n + 1)) (f : Frame) :
    (s.write f).2.handle.transport.Fills n := by
  have hsend := h.send f.encode
  unfold write
  split <;> rename_i heq <;> rw [heq] at hsend <;> exact hsend

theorem fills_writeAll {frames : List Frame} {s : Session σ} {n : Nat}
    (h : s.handle.transport.Fills (frames.length + n)) :
    (s.writeAll frames).2.handle.transport.Fills n := by
  induction frames generalizing s with
  | nil => simpa [writeAll] using h
  | cons f rest ih =>
    rw [List.length_cons, Nat.add_right_comm] at h
    obtain ⟨u, hu, -⟩ := write_of_accepts none f h.accepts
    have hf := fills_write h f
    rw [hu] at hf
    rw [writeAll, hu]
    exact ih hf

theorem fills_turn {s : Session σ} {n : Nat} (o : Options) (line : String)
    (h : s.handle.transport.Fills ((s.dispatcher.dispatch (o.clock s.framesIn)
      (Frame.decode line)).replies.length + n)) :
    (s.turn o line).2.handle.transport.Fills n := by
  have hw := fills_writeAll
    (s := s.taking (s.dispatcher.dispatch (o.clock s.framesIn) (Frame.decode line))) h
  unfold turn
  dsimp only
  split <;> rename_i heq <;> rw [heq] at hw <;> exact hw

/-- Of more frames than the sink takes, the first are written; then a write fails. -/
theorem writeAll_overflows {frames : List Frame} {s : Session σ} {n : Nat}
    (h : s.handle.transport.Fills n) (hn : n < frames.length) :
    ∃ s', s.writeAll frames = (some Transport.refusal, s') ∧
      s'.handle.transport.written =
        s.handle.transport.written ++ (frames.take n).map Frame.encode := by
  induction frames generalizing s n with
  | nil => exact absurd hn (Nat.not_lt_zero n)
  | cons f rest ih =>
    cases n with
    | zero =>
      refine ⟨s.withTransport s.handle.transport, ?_, ?_⟩
      · rw [writeAll, write, Transport.send_of_full h]
      · simp [withTransport]
    | succ n =>
      obtain ⟨u, hu, hw⟩ := write_of_accepts (n := n) none f h.accepts
      have hf := fills_write h f
      rw [hu] at hf
      obtain ⟨v, hv, hwritten⟩ := ih hf (Nat.lt_of_succ_lt_succ hn)
      refine ⟨v, ?_, ?_⟩
      · rw [writeAll, hu]
        exact hv
      · rw [hwritten, hw.transport.written, List.append_assoc]
        rfl

theorem turn_overflows {s : Session σ} {n : Nat} (o : Options) (line : String)
    (h : s.handle.transport.Fills n)
    (hn : n < (s.dispatcher.dispatch (o.clock s.framesIn) (Frame.decode line)).replies.length) :
    ∃ s', s.turn o line = (some (.failed (.channel Transport.refusal)), s') ∧
      s'.handle.transport.written = s.handle.transport.written ++ ((s.dispatcher.dispatch
        (o.clock s.framesIn) (Frame.decode line)).replies.take n).map Frame.encode := by
  obtain ⟨u, hu, hw⟩ := writeAll_overflows
    (s := s.taking (s.dispatcher.dispatch (o.clock s.framesIn) (Frame.decode line))) h hn
  refine ⟨u, ?_, hw⟩
  unfold turn
  dsimp only
  rw [hu]

/-- A session that has more to write than the sink takes fails at the first line too many, whatever it
would have come to. -/
theorem pumpFor_overflows (o : Options) {lines : List String} {n k : Nat} {s : Session σ}
    (hk : lines.length < k) (hl : s.handle.transport.lines = lines)
    (hf : s.handle.transport.Fills n)
    (hn : n < (s.dispatcher.transcribe o.clock s.framesIn lines).written.length) :
    ∃ after, s.pumpFor o k = (.failed (.channel Transport.refusal), after) ∧
      after.handle.transport.written = s.handle.transport.written ++
        ((s.dispatcher.transcribe o.clock s.framesIn lines).written.take n).map Frame.encode := by
  induction lines generalizing n k s with
  | nil => exact absurd hn (Nat.not_lt_zero n)
  | cons line rest ih =>
    obtain ⟨k, rfl⟩ : ∃ m, k = m + 1 := ⟨k - 1, by omega⟩
    obtain ⟨t, hr, hlines, -, hwritten, -⟩ := Transport.receive_of_cons o.limit hl
    have hread : s.read o.limit = (.line line, s.withTransport t) := by
      unfold read
      rw [hr]
    have hft : t.Fills n := by
      have := hf.receive o.limit
      rwa [hr] at this
    by_cases hlong :
        n < (s.dispatcher.dispatch (o.clock s.framesIn) (Frame.decode line)).replies.length
    · -- the replies to this line are too many already
      obtain ⟨u, hu, hw⟩ := turn_overflows (s := s.withTransport t) o line hft hlong
      obtain ⟨later, hlater⟩ := s.dispatcher.written_cons o.clock s.framesIn line rest
      refine ⟨u, pumpFor_of_some hread hu, ?_⟩
      rw [hw, hlater, List.take_append_of_le_length (Nat.le_of_lt hlong), ← hwritten]
      rfl
    · obtain ⟨m, rfl⟩ : ∃ m, n = (s.dispatcher.dispatch (o.clock s.framesIn)
          (Frame.decode line)).replies.length + m := Nat.exists_eq_add_of_le (Nat.not_lt.mp hlong)
      cases hv : (s.dispatcher.dispatch (o.clock s.framesIn)
          (Frame.decode line)).verdict.ending? with
      | some e =>
        rw [Dispatcher.transcribe_of_some hv] at hn
        exact absurd hn (Nat.not_lt.mpr (Nat.le_add_right _ _))
      | none =>
        rw [Dispatcher.transcribe_of_none hv] at hn ⊢
        rw [List.length_append] at hn
        obtain ⟨u, hu, hs⟩ := turn_of_accepts (s := s.withTransport t) o line hft.accepts
        have hfu := fills_turn (s := s.withTransport t) o line hft
        rw [hu] at hfu
        have hd : u.dispatcher =
            (s.dispatcher.dispatch (o.clock s.framesIn) (Frame.decode line)).next := hs.dispatcher
        have hin : u.framesIn = s.framesIn + 1 := hs.framesIn
        have hul : u.handle.transport.lines = rest := hs.transport.lines.trans hlines
        rw [← hd, ← hin] at hn ⊢
        obtain ⟨after, hp, hw⟩ := ih (Nat.lt_of_succ_lt_succ hk) hul hfu (by omega)
        refine ⟨after, ?_, ?_⟩
        · rw [pumpFor_of_none hread (hu.trans (congrArg (·, u) hv)), hp]
        · rw [hw, hs.transport.written, ← hwritten, List.append_assoc, ← List.map_append,
            List.take_length_add_append]
          rfl

/-- A session whose sink takes no more than `n` lines, while it has more to write, fails. -/
theorem run_overflows {s : Session σ} {n : Nat} (hs : s.framesIn = 0) (o : Options)
    (hf : s.handle.transport.Fills n)
    (hn : n < (s.dispatcher.transcribe o.clock 0 s.handle.transport.lines).written.length + 1) :
    s.result? o = some (.error (.channel Transport.refusal)) ∧
      s.output o = s.handle.transport.written ++ ((s.dispatcher.ready ::
        (s.dispatcher.transcribe o.clock 0 s.handle.transport.lines).written).take n).map
          Frame.encode := by
  suffices h : ∃ after, s.run o = (.failed (.channel Transport.refusal), after) ∧
      after.handle.transport.written = s.handle.transport.written ++ ((s.dispatcher.ready ::
        (s.dispatcher.transcribe o.clock 0 s.handle.transport.lines).written).take n).map
          Frame.encode by
    obtain ⟨after, hrun, hw⟩ := h
    unfold result? output
    rw [hrun]
    exact ⟨rfl, hw⟩
  cases n with
  | zero =>
    refine ⟨s.withTransport s.handle.transport, ?_, ?_⟩
    · rw [run, write, Transport.send_of_full hf]
    · simp [withTransport]
  | succ n =>
    obtain ⟨u, hu, hw⟩ := write_of_accepts (n := n) o.limit s.dispatcher.ready hf.accepts
    have hfu := fills_write hf s.dispatcher.ready
    rw [hu] at hfu
    have hin : u.framesIn = 0 := hw.framesIn.trans hs
    have hlines : u.handle.transport.lines = s.handle.transport.lines := hw.transport.lines
    have hk : u.handle.transport.lines.length < u.pending + 1 :=
      Nat.lt_succ_of_le u.handle.transport.length_lines_le
    obtain ⟨after, hp, hwritten⟩ := pumpFor_overflows o hk rfl hfu
      (by rw [hw.dispatcher, hin, hlines]; omega)
    rw [hw.dispatcher, hin, hlines] at hwritten
    refine ⟨after, ?_, ?_⟩
    · rw [run, hu]
      exact hp
    · rw [hwritten, hw.transport.written, List.append_assoc]
      rfl

/-- **A writer that fails**: over a writer that fails after `n` lines, a session writes the first `n` of the
lines that it writes over a writer that never fails. If these are all, both sessions come to the same;
otherwise the first fails for its channel, even where the second stops or fails for a handler. -/
theorem run_cut_short (seed : Seed) (l : Loader σ) (memory : σ) (rid rid' : UInt32) (o : Options)
    (input : List UInt8) (n : Nat) :
    let channel (limit : Option Nat) : Transport := .stream (.ofBytes input limit)
    (∃ f, (bootstrap seed l memory rid (.installed (channel none))).1 = .error f ∧
      (bootstrap seed l memory rid' (.installed (channel (some n)))).1 = .error f) ∨
    ∃ free cut result, (bootstrap seed l memory rid (.installed (channel none))).1 = .ok free ∧
      (bootstrap seed l memory rid' (.installed (channel (some n)))).1 = .ok cut ∧
      free.result? o = some result ∧ cut.output o = (free.output o).take n ∧
      cut.result? o = some (if (free.output o).length ≤ n then result
        else .error (.channel (.io "writer closed"))) := by
  intro channel
  rw [bootstrap_installed, bootstrap_installed]
  cases (Dispatcher.bootstrap seed l memory).1 with
  | error f => exact Or.inl ⟨f, rfl, rfl⟩
  | ok d =>
    let free : Session σ := ⟨⟨rid, channel none⟩, d, 0, 0⟩
    let cut : Session σ := ⟨⟨rid', channel (some n)⟩, d, 0, 0⟩
    let t := d.transcribe o.clock 0 (channel none).lines
    obtain ⟨e, he⟩ := Stream.exists_tailOf (Stream.arrivals input)
    obtain ⟨result, hresult⟩ := exists_result (s := free) (o := o) rfl he nofun
    have hfree : free.output o = (d.ready :: t.written).map Frame.encode :=
      (run_follows (s := free) rfl o nofun).2.written
    have hlength : (free.output o).length = t.written.length + 1 := by
      rw [hfree, List.length_map, List.length_cons]
    refine Or.inr ⟨free, cut, result, rfl, rfl, hresult, ?_⟩
    by_cases hn : (free.output o).length ≤ n
    · have hroom : cut.handle.transport.Accepts (t.written.length + 1) := by
        intro limit hl
        obtain rfl : n = limit := Option.some.inj hl
        show 0 + (t.written.length + 1) ≤ n
        omega
      obtain ⟨hsame, texts, hs, hr⟩ :=
        run_congr (s := free) (r := cut) o rfl rfl rfl rfl rfl rfl nofun hroom
      refine ⟨?_, ?_⟩
      · rw [List.take_of_length_le hn, hs, hr]
        rfl
      · rw [if_pos hn, ← hsame, hresult]
    · have hfills : cut.handle.transport.Fills n := congrArg some (Nat.zero_add n).symm
      obtain ⟨hcut, hwritten⟩ := run_overflows (s := cut) rfl o hfills
        (by rw [hlength] at hn; exact Nat.not_le.mp hn)
      refine ⟨?_, ?_⟩
      · rw [hwritten, hfree, ← List.map_take]
        rfl
      · rw [if_neg hn, hcut]
        rfl

end Session

end ScriptLink
