import ScriptLink.Proofs.Host.Persistent

/-!
# ScriptLink.Proofs.Host.PersistentDrive — what a drive without pings comes to

What a persistent drive writes and how it ends, told by its events alone.

* `HostEvent.ends` are the events that end a drive, `HostEvent.verdict` is how; `HostEvent.course` are the
  events before the first of them, and `HostEvent.last` is that one.
* `HostEvent.replies` are the lines by which a driver answers an event, whatever came before it.
* `HostEvent.both`: a ready frame and the end of external input were heard. At the event that makes up
  both, the host asks the session to stop, unless it forwarded such a request before; `told` is all that
  is written then, and `told_of_closes`, `told_of_not_closes` say where that request stands.
* `Recalls` says what a driver knows of the events before; `Recalls.handle` is the step and
  `runFor_persistent` the induction over the events. `run_persistent` puts these together.
-/

namespace ScriptLink

open ScriptLink.Frame (tells alarming forwarded)

namespace HostEvent

/-! ## Events -/

/-- Whether the event is a ready frame. -/
def announces (e : HostEvent) : Bool := e.line?.any (tells .ready)

/-- Whether the host forwards a request to stop. -/
def asksToStop (e : HostEvent) : Bool := e.external?.any fun line => tells .shutdown (forwarded line)

/-- Whether a drive is over at the event. -/
def ends : HostEvent → Bool
  | .frame line => alarming line || tells .shutdownAck line
  | .scriptClosed => true
  | _ => false

/-- The lines by which a driver answers an event, whatever came before. -/
def replies (executor : HostCall.Executor) : HostEvent → List String
  | .external line => [forwarded line]
  | .frame line =>
    match Frame.decode line with
    | .hostCall id payload =>
      match executor payload with
      | .ok result => [(Frame.hostResult id result).encode]
      | .error refusal => [(Frame.hostError id (some (.str refusal.message))).encode]
    | _ => []
  | _ => []

/-- How a drive ends at an event, with the report so far, and `stopped` if a shutdown was written. -/
def verdict (report : DriveReport) (stopped : Bool) : HostEvent → DriveEnding
  | .frame line =>
    match Frame.decode line with
    | .error .. => .failed (.script .error line)
    | .loadError .. => .failed (.script .loadError line)
    | .shutdownAck reason => .finished { report with acknowledged := some reason }
    | _ => .waiting
  | .scriptClosed => if stopped then .finished report else .failed .channelClosed
  | _ => .waiting

/-- The events before the first one that ends a drive. -/
def course (events : List HostEvent) : List HostEvent := events.takeWhile fun e => !e.ends

/-- The first event that ends a drive; once no more events come, the session hung up. -/
def last (events : List HostEvent) : HostEvent :=
  (events.dropWhile fun e => !e.ends).head?.getD .scriptClosed

theorem course_cons_of_ends {e : HostEvent} (he : e.ends = true) (rest : List HostEvent) :
    course (e :: rest) = [] ∧ last (e :: rest) = e := by
  simp [course, last, he]

theorem course_cons_of_not_ends {e : HostEvent} (he : e.ends = false) (rest : List HostEvent) :
    course (e :: rest) = e :: course rest ∧ last (e :: rest) = last rest := by
  simp [course, last, he]

theorem ends_last (events : List HostEvent) : (last events).ends = true := by
  induction events with
  | nil => rfl
  | cons e rest ih =>
    cases he : e.ends with
    | true => rwa [(course_cons_of_ends he rest).2]
    | false => rwa [(course_cons_of_not_ends he rest).2]

/-- An event that ends a drive does not leave it waiting. -/
theorem verdict_ne_waiting {e : HostEvent} (he : e.ends = true) (report : DriveReport)
    (stopped : Bool) : e.verdict report stopped ≠ .waiting := by
  cases e with
  | external line => cases he
  | externalClosed => cases he
  | scriptClosed => cases stopped <;> exact DriveEnding.noConfusion
  | frame line =>
    rw [verdict]
    cases hf : Frame.decode line with
    | error | loadError | shutdownAck => exact DriveEnding.noConfusion
    | _ => simp [ends, alarming, tells, hf, Frame.kind] at he

/-! ## The request to stop -/

/-- A ready frame and the end of external input are among the events. -/
def both (past : List HostEvent) : Bool := past.any announces && past.contains .externalClosed

/-- The event makes up both, and no request to stop was forwarded before it. -/
def closes (past : List HostEvent) (e : HostEvent) : Bool :=
  !both past && both (past ++ [e]) && !past.any asksToStop

theorem both_append (past more : List HostEvent) : both (past ++ more) =
    ((past.any announces || more.any announces) &&
      (past.contains .externalClosed || more.contains .externalClosed)) := by
  rw [both, List.any_append, List.contains_append]

/-- What was heard stays so. -/
theorem both_append_of_both {past : List HostEvent} (h : both past = true)
    (more : List HostEvent) : both (past ++ more) = true := by
  rw [both, Bool.and_eq_true] at h
  rw [both_append, h.1, h.2, Bool.true_or, Bool.true_or, Bool.true_and]

theorem closes_eq (past : List HostEvent) (e : HostEvent) :
    closes past e = ((past.any announces || e.announces) &&
      (past.contains .externalClosed || decide (e = .externalClosed)) &&
        !(past.any asksToStop || both past)) := by
  have hlast : [e].contains .externalClosed = decide (e = .externalClosed) := by
    simp [eq_comm]
  rw [closes, both_append, List.any_cons, List.any_nil, Bool.or_false, hlast, Bool.not_or,
    Bool.and_comm (!both past), Bool.and_assoc, Bool.and_comm (!both past)]

/-- Only a ready frame or the end of external input makes up both. -/
theorem closes_eq_false {e : HostEvent} (hr : e.announces = false) (hc : e ≠ .externalClosed)
    (past : List HostEvent) : closes past e = false := by
  rw [closes_eq, hr, decide_eq_false hc, Bool.or_false, Bool.or_false, ← both, Bool.not_or,
    Bool.and_comm (!past.any asksToStop), ← Bool.and_assoc, Bool.and_not_self, Bool.false_and]

/-- The event that makes up both is not answered otherwise. -/
theorem replies_of_closes {executor : HostCall.Executor} {past : List HostEvent} {e : HostEvent}
    (h : closes past e = true) : e.replies executor = [] := by
  cases e with
  | externalClosed | scriptClosed => rfl
  | external line =>
    rw [closes_eq_false rfl HostEvent.noConfusion] at h
    cases h
  | frame line =>
    cases hr : announces (.frame line) with
    | false =>
      rw [closes_eq_false hr HostEvent.noConfusion] at h
      cases h
    | true =>
      have hkind : (Frame.decode line).kind = .ready := Frame.tells_iff.mp hr
      rw [replies]
      cases hf : Frame.decode line with
      | hostCall id payload =>
        rw [hf] at hkind
        cases hkind
      | _ => rfl

end HostEvent

open HostEvent

namespace Driver

/-! ## What is written -/

/-- What is written for events that follow those of the past. -/
def told (executor : HostCall.Executor) : List HostEvent → List HostEvent → List String
  | _, [] => []
  | past, e :: rest =>
    e.replies executor ++ (if closes past e then [closing] else []) ++ told executor (past ++ [e]) rest

theorem told_append (executor : HostCall.Executor) (past es fs : List HostEvent) :
    told executor past (es ++ fs) = told executor past es ++ told executor (past ++ es) fs := by
  induction es generalizing past with
  | nil => rw [List.nil_append, told, List.nil_append, List.append_nil]
  | cons e rest ih =>
    rw [List.cons_append, told, told, ih]
    simp only [List.append_assoc, List.singleton_append]

theorem told_of_not_closes {executor : HostCall.Executor} {past es : List HostEvent}
    (h : ∀ p e q, es = p ++ e :: q → closes (past ++ p) e = false) :
    told executor past es = es.flatMap (replies executor) := by
  induction es generalizing past with
  | nil => rfl
  | cons e rest ih =>
    have hnow := h [] e rest rfl
    rw [List.append_nil] at hnow
    have hlater : ∀ p e' q, rest = p ++ e' :: q → closes (past ++ [e] ++ p) e' = false := by
      rintro p e' q rfl
      simpa using h (e :: p) e' q rfl
    rw [told, hnow, ih hlater, List.flatMap_cons]
    exact congrArg (· ++ _) (List.append_nil _)

/-- The host asks once, at the event that makes up both. -/
theorem told_of_closes {executor : HostCall.Executor} {p q : List HostEvent} {e : HostEvent}
    (h : closes p e = true) : told executor [] (p ++ e :: q) =
      p.flatMap (replies executor) ++ closing :: q.flatMap (replies executor) := by
  have hboth := h
  rw [closes, Bool.and_eq_true, Bool.and_eq_true, Bool.not_eq_true'] at hboth
  obtain ⟨⟨hbefore, hafter⟩, -⟩ := hboth
  have hfirst : told executor [] p = p.flatMap (replies executor) := by
    refine told_of_not_closes fun p' e' q' hp => ?_
    by_contra hc
    rw [List.nil_append, Bool.not_eq_false, closes, Bool.and_eq_true, Bool.and_eq_true] at hc
    have hp' : p = p' ++ [e'] ++ q' := by
      rw [hp, List.append_assoc, List.singleton_append]
    rw [hp', both_append_of_both hc.1.2] at hbefore
    cases hbefore
  have hrest : told executor (p ++ [e]) q = q.flatMap (replies executor) := by
    refine told_of_not_closes fun p' e' q' _ => ?_
    rw [closes, both_append_of_both hafter]
    rfl
  have hnone : e.replies executor = [] := replies_of_closes h
  rw [told_append, hfirst, List.nil_append, told, hnone, if_pos h, hrest]
  rfl

/-- What is reported after the events of the past, for which the lines were written. -/
def reportOf (past : List HostEvent) (lines : List String) : DriveReport where
  pings := 0
  pongs := (past.filterMap HostEvent.line?).countP (tells .pong)
  served := (past.filterMap HostEvent.line?).countP (tells .hostCall)
  reason := (lines.filterMap stopReason?).getLast?.join
  acknowledged := none

/-! ## What a driver knows -/

/-- What a driver knows of the events of the past, for which the lines were written. -/
structure Recalls (executor : HostCall.Executor) (past : List HostEvent) (lines : List String)
    (d : Driver) : Prop where
  mode : d.mode = .persistent
  executor : d.executor = executor
  ready : d.ready = past.any announces
  inputClosed : d.inputClosed = past.contains .externalClosed
  shutdown : d.shutdown = (past.any asksToStop || both past)
  written : d.shutdown = lines.any (tells .shutdown)
  report : d.report = reportOf past lines

/-- How a driver answers an event at which the drive is not over: the lines, in the end a shutdown if
it `asks` for a stop, and what becomes of the report. -/
structure Answers (d : Driver) (e : HostEvent) (asks : Bool) (r : Reaction) : Prop where
  sequel : r.sequel = .proceed
  executor : r.next.executor = d.executor
  sends : r.sends.map Outgoing.line =
    e.replies d.executor ++ if asks then [closing] else []
  reason : r.next.report.reason =
    ((r.sends.map Outgoing.line).filterMap stopReason?).getLast?.getD d.report.reason
  acknowledged : r.next.report.acknowledged = d.report.acknowledged

theorem answers_settle {c d : Driver} {e : HostEvent} (he : e.replies d.executor = [])
    (hc : c.executor = d.executor) (hr : c.report = d.report) :
    Answers d e (c.inputClosed && c.ready && !c.shutdown) c.settle := by
  obtain ⟨mode, options, executor, ready, shutdown, inputClosed, report⟩ := c
  obtain rfl : executor = d.executor := hc
  obtain rfl : report = d.report := hr
  unfold settle
  split
  · rename_i h
    rw [h]
    refine ⟨rfl, rfl, by rw [he]; rfl, ?_, rfl⟩
    show some inputClosedReason = ([closing].filterMap stopReason?).getLast?.getD _
    rw [closing, List.filterMap_cons_some (stopReason?_shutdownFor _)]
    rfl
  · rename_i h
    rw [Bool.eq_false_iff.mpr h]
    exact ⟨rfl, rfl, by rw [he]; rfl, rfl, rfl⟩

/-- A request to stop is forwarded with its reason. -/
theorem stopReason?_forwarded (line : String) :
    stopReason? (forwarded line) = if isShutdown (Frame.ofExternal line) then
      some (((Frame.ofExternal line).get? "reason").bind Value.asString?) else none := by
  split
  · rename_i h
    unfold stopReason? forwarded
    rw [Frame.decode_ofExternal_of_shutdown h]
    show some ((Frame.free? "reason" (Frame.ofExternal line)).bind Value.asString?) = _
    unfold Frame.free?
    cases (Frame.ofExternal line).get? "reason" with
    | none => rfl
    | some v => cases v <;> rfl
  · rename_i h
    exact stopReason?_eq_none
      ((Frame.tells_shutdown_ofExternal line).trans (Bool.eq_false_iff.mpr h))

theorem answers_forward (line : String) (d : Driver) :
    Answers d (.external line) false (d.forward line) := by
  have hreason := stopReason?_forwarded line
  unfold forward
  dsimp only
  split
  · rename_i h
    rw [if_pos h] at hreason
    refine ⟨rfl, rfl, rfl, ?_, rfl⟩
    show _ = ([forwarded line].filterMap stopReason?).getLast?.getD d.report.reason
    rw [List.filterMap_cons_some hreason]
    rfl
  · rename_i h
    rw [if_neg h] at hreason
    refine ⟨rfl, rfl, rfl, ?_, rfl⟩
    show _ = ([forwarded line].filterMap stopReason?).getLast?.getD d.report.reason
    rw [List.filterMap_cons_none hreason]
    rfl

theorem encode_answer (executor : HostCall.Executor) (id payload : Value) :
    [(answer executor id payload).encode] = match executor payload with
      | .ok result => [(Frame.hostResult id result).encode]
      | .error refusal => [(Frame.hostError id (some (.str refusal.message))).encode] := by
  unfold answer
  cases executor payload <;> rfl

/-- At an event that is not the end, a driver answers with its replies, and with the shutdown if it is time
for it. -/
theorem Recalls.answers {executor : HostCall.Executor} {past : List HostEvent}
    {lines : List String} {d : Driver} (h : Recalls executor past lines d) {e : HostEvent}
    (he : e.ends = false) : Answers d e (closes past e) (d.handle e) := by
  have hcloses := closes_eq past e
  rw [← h.ready, ← h.inputClosed, ← h.shutdown] at hcloses
  cases e with
  | scriptClosed => cases he
  | external line =>
    rw [closes_eq_false rfl HostEvent.noConfusion]
    exact answers_forward line d
  | externalClosed =>
    have hr : announces .externalClosed = false := rfl
    rw [hcloses, hr, Bool.or_false, Bool.and_comm d.ready, decide_eq_true rfl, Bool.or_true]
    exact answers_settle (c := { d with inputClosed := true }) rfl rfl rfl
  | frame line =>
    have hne : HostEvent.frame line ≠ .externalClosed := HostEvent.noConfusion
    rw [decide_eq_false hne, Bool.or_false] at hcloses
    show Answers d _ _ (d.onFrame line)
    unfold onFrame
    cases hf : Frame.decode line with
    | ready c =>
      have hr : announces (.frame line) = true := Frame.tells_iff.mpr (by rw [hf]; rfl)
      have hnone : replies d.executor (.frame line) = [] := by rw [replies, hf]
      rw [hcloses, hr, Bool.or_true, Bool.and_comm true]
      exact answers_settle (c := { d with ready := true }) hnone rfl rfl
    | hostCall id payload =>
      have hr : announces (.frame line) = false := by
        simp [announces, HostEvent.line?, tells, hf, Frame.kind]
      have hlines : (d.serve id payload).sends.map Outgoing.line =
          [(answer d.executor id payload).encode] := rfl
      have hstop : stopReason? (answer d.executor id payload).encode = none :=
        stopReason?_eq_none (tells_answer _ _ _ (.inr rfl))
      rw [closes_eq_false hr hne]
      refine ⟨rfl, rfl, ?_, ?_, rfl⟩
      · rw [hlines, encode_answer, replies, hf]
        exact (List.append_nil _).symm
      · rw [hlines, List.filterMap_cons_none hstop]
        rfl
    | error | loadError | shutdownAck => simp [ends, alarming, tells, hf, Frame.kind] at he
    | _ =>
      have hr : announces (.frame line) = false := by
        simp [announces, HostEvent.line?, tells, hf, Frame.kind]
      have hnone : replies d.executor (.frame line) = [] := by rw [replies, hf]
      rw [closes_eq_false hr hne]
      exact ⟨rfl, rfl, by rw [hnone]; rfl, rfl, rfl⟩

theorem reportOf_append (past : List HostEvent) (e : HostEvent) (lines more : List String) :
    reportOf (past ++ [e]) (lines ++ more) =
      { reportOf past lines with
        pongs := (reportOf past lines).pongs + e.line?.toList.countP (tells .pong)
        served := (reportOf past lines).served + e.line?.toList.countP (tells .hostCall)
        reason := (more.filterMap stopReason?).getLast?.getD (reportOf past lines).reason } := by
  have hlines : (past ++ [e]).filterMap HostEvent.line? =
      past.filterMap HostEvent.line? ++ e.line?.toList := by
    rw [List.filterMap_append]
    cases e <;> rfl
  unfold reportOf
  rw [hlines, List.countP_append, List.countP_append, List.filterMap_append, List.getLast?_append]
  cases (more.filterMap stopReason?).getLast? <;> rfl

/-- The lines that a driver answers an event with tell of a shutdown just if it is forwarded or sent. -/
theorem any_tells_replies (executor : HostCall.Executor) (e : HostEvent) (asks : Bool) :
    ((e.replies executor ++ if asks then [closing] else []).any (tells .shutdown)) =
      (e.asksToStop || asks) := by
  have hasks : (if asks then [closing] else []).any (tells .shutdown) = asks := by
    cases asks
    · rfl
    · show (tells .shutdown closing || false) = true
      rw [tells_closing]
      rfl
  have hreplies : (e.replies executor).any (tells .shutdown) = e.asksToStop := by
    cases e with
    | external line => exact Bool.or_false _
    | frame line =>
      show (replies executor (.frame line)).any (tells .shutdown) = false
      rw [replies]
      split
      · rw [← encode_answer]
        simp [tells_answer _ _ _ (.inr rfl)]
      · rfl
    | _ => rfl
  rw [List.any_append, hasks, hreplies]

/-- What a driver knows after one more event, at which the drive is not over. -/
theorem Recalls.handle {executor : HostCall.Executor} {past : List HostEvent}
    {lines : List String} {d : Driver} (h : Recalls executor past lines d) {e : HostEvent}
    (he : e.ends = false) :
    Recalls executor (past ++ [e]) (lines ++ (d.handle e).sends.map Outgoing.line)
      (d.handle e).next := by
  have ha := h.answers he
  have hf := d.forwards_handle e
  have hexec := h.executor
  have hlines : (d.handle e).sends.any (fun o => tells .shutdown o.line) =
      ((d.handle e).sends.map Outgoing.line).any (tells .shutdown) := by
    rw [List.any_map]
    rfl
  refine ⟨hf.mode.trans h.mode, ha.executor.trans h.executor, ?_, ?_, ?_, ?_, ?_⟩
  · rw [d.handle_ready, h.ready, List.any_append]
    simp [announces]
  · rw [hf.inputClosed, h.inputClosed, List.contains_append]
    simp [eq_comm]
  · have hlast : [e].any asksToStop = e.asksToStop := by simp
    rw [hf.shutdown, hlines, ha.sends, any_tells_replies, h.shutdown, List.any_append, hlast,
      closes]
    cases hb : both past with
    | true => rw [both_append_of_both hb, Bool.or_true, Bool.or_true, Bool.true_or]
    | false => cases past.any asksToStop <;> simp
  · rw [hf.shutdown, hlines, h.written, List.any_append]
  · obtain ⟨hpongs, hserved⟩ := handle_counts e d
    rw [reportOf_append, ← h.report]
    dsimp only
    rw [← hpongs, ← hserved, ← ha.reason, ← (d.handle_keeps e).2, ← ha.acknowledged]

/-! ## The end -/

/-- At an event that is the end, a driver writes nothing more, and the drive ends as the event has it. -/
theorem Recalls.ends {executor : HostCall.Executor} {past : List HostEvent} {lines : List String}
    {d : Driver} (h : Recalls executor past lines d) {e : HostEvent} (he : e.ends = true) :
    (d.handle e).sends = [] ∧
      match (d.handle e).sequel with
      | .proceed => False
      | .done => e.verdict (reportOf past lines) (lines.any (tells .shutdown)) =
          .finished (d.handle e).next.report
      | .failed f => e.verdict (reportOf past lines) (lines.any (tells .shutdown)) = .failed f := by
  rw [← h.report, ← h.written]
  cases e with
  | external line => cases he
  | externalClosed => cases he
  | scriptClosed =>
    refine ⟨rfl, ?_⟩
    cases hs : d.shutdown <;> simp [Driver.handle, verdict, hs]
  | frame line =>
    show (d.onFrame line).sends = [] ∧ _
    have hs : (d.handle (.frame line)) = d.onFrame line := rfl
    rw [hs, verdict]
    unfold onFrame
    cases hf : Frame.decode line with
    | error | loadError | shutdownAck => exact ⟨rfl, rfl⟩
    | _ => simp [HostEvent.ends, alarming, tells, hf, Frame.kind] at he

end Driver

namespace Rehearsal

/-- While the session is there, every line arrives. -/
theorem sendAll_connected (outgoing : List Outgoing) (d : Driver) (queue : List HostEvent)
    (written : List String) :
    sendAll outgoing ⟨d, queue, none, true, written⟩ =
      (true, ⟨d, queue, none, true, written ++ outgoing.map Outgoing.line⟩) := by
  induction outgoing generalizing written with
  | nil => rw [sendAll, List.map_nil, List.append_nil]
  | cons o rest ih =>
    have hsend : send o ⟨d, queue, none, true, written⟩ =
        (true, ⟨d, queue, none, true, written ++ [o.line]⟩) := rfl
    rw [sendAll, hsend]
    simp only [ih, List.map_cons, List.append_assoc, List.singleton_append]

open Driver (Recalls reportOf told)

section

variable {executor : HostCall.Executor} {past : List HostEvent} {lines : List String} {d : Driver}
  {e : HostEvent} {q : List HostEvent} {n : Nat} {r : Rehearsal}

theorem runFor_of_ends (h : Recalls executor past lines d) (he : e.ends = true)
    (hr : r.next? = some (d.handle e, ⟨d, q, none, true, lines⟩)) :
    r.runFor (n + 1) =
      (lines, e.verdict (reportOf past lines) (lines.any (tells .shutdown))) := by
  obtain ⟨hsends, hsequel⟩ := h.ends he
  rw [runFor, hr]
  dsimp only
  rw [sendAll_connected, hsends, List.map_nil, List.append_nil]
  dsimp only
  cases hq : (d.handle e).sequel with
  | proceed =>
    rw [hq] at hsequel
    exact hsequel.elim
  | done =>
    rw [hq] at hsequel
    rw [hsequel]
  | failed f =>
    rw [hq] at hsequel
    rw [hsequel]

theorem runFor_of_not_ends (h : Recalls executor past lines d) (he : e.ends = false)
    (hr : r.next? = some (d.handle e, ⟨d, q, none, true, lines⟩)) :
    r.runFor (n + 1) = runFor n ⟨(d.handle e).next, q, none, true,
      lines ++ (d.handle e).sends.map Outgoing.line⟩ := by
  rw [runFor, hr]
  dsimp only
  rw [sendAll_connected]
  dsimp only
  rw [(h.answers he).sequel]

/-- A drive is over at the first event that ends it; the lines are those told of the events before. -/
theorem runFor_persistent (h : Recalls executor past lines d) (events : List HostEvent)
    (hn : events.length < n) :
    let written := lines ++ told executor past (course events)
    runFor n ⟨d, events, none, true, lines⟩ = (written, (last events).verdict
      (reportOf (past ++ course events) written) (written.any (tells .shutdown))) := by
  induction events generalizing n past lines d with
  | nil =>
    obtain ⟨m, rfl⟩ : ∃ m, n = m + 1 := ⟨n - 1, by omega⟩
    simpa [told, course, last] using runFor_of_ends (r := ⟨d, [], none, true, lines⟩) (q := [])
      (n := m) (e := .scriptClosed) h rfl rfl
  | cons e rest ih =>
    obtain ⟨m, rfl⟩ : ∃ m, n = m + 1 := ⟨n - 1, by simp at hn; omega⟩
    cases he : e.ends with
    | true =>
      obtain ⟨hcourse, hlast⟩ := course_cons_of_ends he rest
      simpa [told, hcourse, hlast] using runFor_of_ends (r := ⟨d, e :: rest, none, true, lines⟩)
        (q := rest) (n := m) h he rfl
    | false =>
      obtain ⟨hcourse, hlast⟩ := course_cons_of_not_ends he rest
      have hstep := runFor_of_not_ends (r := ⟨d, e :: rest, none, true, lines⟩) (q := rest)
        (n := m) h he rfl
      have hlater := ih (h.handle he) (Nat.lt_of_succ_lt_succ hn)
      rw [(h.answers he).sends, h.executor] at hstep hlater
      dsimp only at hlater ⊢
      rw [hstep, hlater, hcourse, hlast, told]
      simp only [List.append_assoc, List.singleton_append]

end

/-- What a persistent drive on the events writes and how it ends. -/
structure Abides (executor : HostCall.Executor) (events : List HostEvent)
    (outcome : List String × DriveEnding) : Prop where
  /-- At the event that makes up a ready frame and the end of external input, the host asks the session
  to stop, unless it forwarded such a request before; all else that it writes are its replies, in the
  order of the events. -/
  closed : ∀ p e q, course events = p ++ e :: q → closes p e = true →
    outcome.1 = p.flatMap (replies executor) ++ Driver.closing :: q.flatMap (replies executor)
  /-- Without such an event, the host writes its replies. -/
  unclosed : (∀ p e q, course events = p ++ e :: q → closes p e = false) →
    outcome.1 = (course events).flatMap (replies executor)
  /-- No event after the first that ends the drive matters. -/
  ending : outcome.2 = (last events).verdict (reportOf (course events) outcome.1)
    (outcome.1.any (tells .shutdown))
  ended : outcome.2 ≠ .waiting
  /-- A ping that is written was in the external input. -/
  pings : ∀ line ∈ outcome.1, tells .ping line = true →
    ∃ text, .external text ∈ course events ∧ line = forwarded text

/-- Neither the answer to a call nor the host's own request to stop is a ping. -/
theorem external_of_tells_ping {executor : HostCall.Executor} {past es : List HostEvent}
    {line : String} (hl : line ∈ told executor past es) (hp : tells .ping line = true) :
    ∃ text, .external text ∈ es ∧ line = forwarded text := by
  induction es generalizing past with
  | nil => cases hl
  | cons e rest ih =>
    rw [told, List.mem_append, List.mem_append] at hl
    rcases hl with (hl | hl) | hl
    · cases e with
      | external text => exact ⟨text, List.mem_cons_self, List.mem_singleton.mp hl⟩
      | externalClosed | scriptClosed => cases hl
      | frame text =>
        rw [replies] at hl
        split at hl
        · rw [← Driver.encode_answer] at hl
          rw [List.mem_singleton.mp hl, Driver.tells_answer _ _ _ (.inl rfl)] at hp
          cases hp
        · cases hl
    · split at hl
      · rw [List.mem_singleton.mp hl, Driver.closing, Frame.tells_shutdownFor] at hp
        cases hp
      · cases hl
    · obtain ⟨text, ht, hline⟩ := ih hl
      exact ⟨text, List.mem_cons_of_mem _ ht, hline⟩

/-- A persistent drive writes its replies and one request to stop, and ends at the first event that ends
it. -/
theorem run_persistent (options : DriveOptions) (executor : HostCall.Executor)
    (events : List HostEvent) : Abides executor events
      (run ⟨.start .persistent options executor, events, none, true, []⟩) := by
  have hstart : Recalls executor [] [] (.start .persistent options executor) :=
    ⟨rfl, rfl, rfl, rfl, rfl, rfl, rfl⟩
  have hbound : events.length <
      bound ⟨.start .persistent options executor, events, none, true, []⟩ := by
    unfold bound
    dsimp only
    omega
  have hrun := runFor_persistent hstart events hbound
  rw [List.nil_append] at hrun
  rw [run, hrun]
  exact {
    closed := fun p e q hcourse he => by
      rw [hcourse]
      exact Driver.told_of_closes he
    unclosed := fun hno => Driver.told_of_not_closes fun p e q hcourse => hno p e q hcourse
    ending := rfl
    ended := verdict_ne_waiting (ends_last events) _ _
    pings := fun line hl hp => external_of_tells_ping hl hp }

-- external input that follows the host's request to stop is forwarded all the same
example : run ⟨.start .persistent {} fun _ => .ok .null, [.externalClosed,
    .frame "\x7b\"type\":\"ready\"\x7d", .external "hi", .scriptClosed, .external "late"],
    none, true, []⟩ =
    ([Driver.closing, forwarded "hi"],
      .finished ⟨0, 0, 0, some Driver.inputClosedReason, none⟩) := by decide +kernel

end Rehearsal

end ScriptLink
