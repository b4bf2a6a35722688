import ScriptLink.Proofs.Host.PersistentDrive
import ScriptLink.Proofs.Launch.Agreement
import ScriptLink.Proofs.Launch.Foresight

/-!
# ScriptLink.Proofs.Launch.Reason — for which reason a launch ends

* `Frame.asked?` is the reason that a line gives if it asks for a shutdown, `Launch.requests` are those of the
  lines that a host forwards for external input.
* `Requested`: the session obeys the first request that the driver sent, and the driver reports the last. It
  outlives every turn.
* `launch_reason`: so the reported reason is that of the session, unless a later request gave another one; and
  `launch_reason_overwritten` is a launch in which one did.
-/

namespace ScriptLink

open ScriptLink.Frame (tells forwarded idle)

/-! ## Requests -/

namespace Frame

/-- The reason that a line gives for a shutdown, if it asks for one. -/
def asked? (line : String) : Option (Option Value) :=
  match decode line with
  | .shutdown reason => some reason
  | _ => none

theorem asked?_eq_none {line : String} (h : tells .shutdown line = false) : asked? line = none := by
  unfold tells at h
  unfold asked?
  cases hf : decode line with
  | shutdown reason =>
    rw [hf] at h
    cases h
  | _ => rfl

theorem asked?_closing : asked? Driver.closing = some (some (.str Driver.inputClosedReason)) := by
  unfold asked? Driver.closing
  rw [decode_shutdownFor]
  rfl

theorem asked?_of_idle {lines : List String} (h : ∀ line ∈ lines, idle line = true) :
    lines.filterMap asked? = [] :=
  List.filterMap_eq_nil_iff.mpr fun line hl => asked?_eq_none (tells_of_idle (h line hl)).2

end Frame

open ScriptLink.Frame (asked?)

/-- The reasons of the requests to stop that a host forwards for lines of external input, in their order. -/
def Launch.requests (input : List String) : List (Option Value) :=
  (input.map forwarded).filterMap asked?

namespace Driver

/-- The reason that a driver reports after requests for such reasons: the last, if it is a text. -/
def reported (asked : List (Option Value)) : Option String :=
  (asked.map fun reason => reason.bind Value.asString?).getLast?.join

/-- Only a request for a text has its reason reported, and only the last. -/
theorem getLast?_of_reported {asked : List (Option Value)} {r : String}
    (h : reported asked = some r) : asked.getLast? = some (some (.str r)) := by
  unfold reported at h
  rw [List.getLast?_map, Option.join_eq_some_iff, Option.map_eq_some_iff] at h
  obtain ⟨reason, hlast, hreason⟩ := h
  obtain ⟨v, rfl, hv⟩ := Option.bind_eq_some_iff.mp hreason
  cases v with
  | str s =>
    cases hv
    exact hlast
  | _ => cases hv

theorem stopReason?_eq (line : String) :
    stopReason? line = (asked? line).map fun reason => reason.bind Value.asString? := by
  unfold stopReason? asked?
  cases Frame.decode line <;> rfl

/-- The reason that is reported after a reaction is that of the last request it sends, or the one before. -/
def Renews (d : Driver) (r : Reaction) : Prop :=
  r.next.report.reason =
    ((r.sends.map Outgoing.line).filterMap stopReason?).getLast?.getD d.report.reason

theorem renews_handle (e : HostEvent) (d : Driver) : Renews d (d.handle e) := by
  have hsettle (c : Driver) (hc : c.executor = d.executor) (hr : c.report = d.report) :
      Renews d c.settle :=
    (answers_settle (e := .externalClosed) rfl hc hr).reason
  cases e with
  | scriptClosed => rfl
  | external line => exact (answers_forward line d).reason
  | externalClosed => exact hsettle _ rfl rfl
  | frame line =>
    show Renews d (d.onFrame line)
    unfold onFrame
    cases Frame.decode line with
    | ready c => exact hsettle _ rfl rfl
    | hostCall id payload =>
      have hstop : stopReason? (answer d.executor id payload).encode = none :=
        stopReason?_eq_none (tells_answer _ _ _ (.inr rfl))
      show _ = ([(answer d.executor id payload).encode].filterMap stopReason?).getLast?.getD _
      rw [List.filterMap_cons_none hstop]
      rfl
    | _ => rfl

/-- A driver that reported the last of the requests `asked` reports the last of those and of the ones that an
event brings. -/
theorem reported_handle {asked : List (Option Value)} {d : Driver}
    (h : d.report.reason = reported asked) (e : HostEvent) : (d.handle e).next.report.reason =
      reported (asked ++ ((d.handle e).sends.map Outgoing.line).filterMap asked?) := by
  have hrenews : Renews d (d.handle e) := renews_handle e d
  have hstop : stopReason? = fun line => (asked? line).map fun reason => reason.bind Value.asString? :=
    funext stopReason?_eq
  rw [Renews, h, hstop, ← List.map_filterMap] at hrenews
  rw [hrenews, reported, reported, List.map_append, List.getLast?_append]
  generalize (((d.handle e).sends.map Outgoing.line).filterMap asked?).map _ = new
  cases new.getLast? <;> rfl

end Driver

namespace System

/-! ## Requests on their way -/

/-- The driver asked for the reasons `asked`, and its external input is `input`. -/
structure Requested (input : List String) (asked : List (Option Value)) (s : System σ) : Prop where
  /-- The driver reports the last request. -/
  reported : s.driver.report.reason = Driver.reported asked
  coming : ¬s.script.Stops → s.departing.filterMap asked? = asked
  /-- The session obeys the first request. -/
  obeyed : s.script.Stops → ∃ first later, asked = first :: later ∧
    s.dispatcher.phase = .shuttingDown (Value.plainOr Dispatcher.defaultReason first)
  /-- Requests come from the input, or one comes because the input is closed and had none. -/
  source : ∃ taken rest, input = taken ++ rest ∧
    ((∀ f, s.drive ≠ .ended f) → rest = s.incoming) ∧
    (asked = Launch.requests taken ∨
      asked = [some (.str Driver.inputClosedReason)] ∧ Launch.requests taken = [] ∧ rest = [])

theorem requested_start (d : Dispatcher σ) (options : DriveOptions) (executor : HostCall.Executor)
    (input : List String) :
    Requested input [] (.start d (.start .persistent options executor) (some input)) := by
  refine ⟨rfl, fun _ => rfl, fun h => ?_, [], input, rfl, fun _ => rfl, .inl rfl⟩
  cases h

section

variable {o : Options} {input : List String} {asked : List (Option Value)} {s next : System σ}
  {frames : List Frame}

/-- What sends no request and takes no line leaves the requests as they are. -/
theorem Requested.resume (h : Requested input asked s)
    (hdriver : next.driver.report.reason = s.driver.report.reason)
    (hphase : next.dispatcher.phase = s.dispatcher.phase)
    (hscript : next.script.Stops ↔ s.script.Stops)
    (hdep : ¬s.script.Stops → next.departing.filterMap asked? = s.departing.filterMap asked?)
    (hdrive : (∀ f, next.drive ≠ .ended f) → (∀ f, s.drive ≠ .ended f) ∧ next.incoming = s.incoming) :
    Requested input asked next := by
  obtain ⟨hreported, hcoming, hobeyed, taken, rest, hinput, hrest, hsource⟩ := h
  refine ⟨hdriver.trans hreported, fun hn => ?_, fun hs => ?_, taken, rest, hinput, fun hd => ?_,
    hsource⟩
  · rw [hscript] at hn
    exact (hdep hn).trans (hcoming hn)
  · obtain ⟨first, later, hasked, hreason⟩ := hobeyed (hscript.mp hs)
    exact ⟨first, later, hasked, hphase.trans hreason⟩
  · obtain ⟨hgoing, hincoming⟩ := hdrive hd
    exact (hrest hgoing).trans hincoming.symm

/-- A session that waits stops at the first request that it takes. -/
theorem Requested.take (h : Requested input asked s) {line : String} {rest : List String}
    (hs : s.script = .reading) (hi : s.pair.toScript.items = line :: rest) :
    Requested input asked ({ s with pair.toScript.items := rest }.takeLine o line) := by
  obtain ⟨hreported, hcoming, -, hsource⟩ := h
  have hreading : ¬s.script.Stops := by
    rw [hs]
    exact id
  have hdep : s.departing = line :: (rest ++ s.drive.unsent) := by
    unfold departing
    rw [hi, List.cons_append]
  have hasked := hcoming hreading
  rw [hdep] at hasked
  have hverdict := Dispatcher.verdict_stop_iff (o.clock s.framesIn) (Frame.decode line) s.dispatcher
  refine ⟨hreported, fun hn => ?_, fun hstops => ?_, hsource⟩
  · have htells : tells .shutdown line = false := by
      rw [Bool.eq_false_iff, ne_eq, Frame.tells_iff, ← hverdict]
      exact hn
    rw [List.filterMap_cons_none (Frame.asked?_eq_none htells)] at hasked
    exact hasked
  · obtain ⟨reason, hr⟩ := Dispatcher.eq_shutdown (hverdict.mp hstops)
    have hline : asked? line = some reason := by
      unfold asked?
      rw [hr]
    rw [List.filterMap_cons_some hline] at hasked
    refine ⟨reason, _, hasked.symm, ?_⟩
    show (s.dispatcher.dispatch _ (Frame.decode line)).next.phase = _
    rw [hr]
    rfl

/-- A driver that has not asked for a shutdown has no request on its way. -/
theorem Requested.eq_nil (hasking : Asking s) (h : Requested input asked s)
    (hopen : s.driver.shutdown = false) : asked = [] := by
  have hnot := mt hasking.asked.mpr (Bool.eq_false_iff.mp hopen)
  rw [not_or] at hnot
  rw [← h.coming hnot.2, List.filterMap_eq_nil_iff]
  intro line hline
  exact Frame.asked?_eq_none (Bool.eq_false_iff.mpr fun htells => hnot.1 ⟨line, hline, htells⟩)

/-- The driver sends the requests that an event brings. -/
theorem Requested.handle (hintake : Intake s) (hasking : Asking s) (h : Requested input asked s)
    {e : HostEvent} {rest : List HostEvent} (hd : s.drive = .waiting)
    (hi : s.events.items = e :: rest) :
    Requested input (asked ++ ((s.driver.handle e).sends.map Outgoing.line).filterMap asked?)
      ({ s with events.items := rest }.react (s.driver.handle e)) := by
  have hopen := h.eq_nil hasking
  obtain ⟨hreported, hcoming, hobeyed, taken, left, hinput, hleft, hsource⟩ := h
  let next := { s with events.items := rest }.react (s.driver.handle e)
  have hdep : s.departing = s.pair.toScript.items := departing_waiting (by rw [hd]; rfl)
  have hgoing : ∀ f, s.drive ≠ .ended f := by
    rw [hd]
    exact nofun
  have hincoming : left = e.external?.toList ++ next.incoming :=
    (hleft hgoing).trans (incoming_cons hi)
  refine ⟨Driver.reported_handle hreported e, fun hn => ?_, fun hstops => ?_, ?_⟩
  · rw [← hcoming hn, hdep, ← List.filterMap_append]
    rfl
  · obtain ⟨first, later, rfl, hphase⟩ := hobeyed hstops
    exact ⟨first, later ++ _, rfl, hphase⟩
  rcases (s.driver.forwards_handle e).sends with ⟨line, he, hl⟩ | ⟨he, hl | ⟨hl, hclosed, hfirst⟩⟩
  · rw [Option.mem_def.mp he] at hincoming
    refine ⟨taken ++ [line], next.incoming, ?_, fun _ => rfl, ?_⟩
    · rw [hinput, hincoming, List.append_assoc]
      rfl
    · rcases hsource with rfl | ⟨-, -, hnil⟩
      · left
        rw [hl, Launch.requests, Launch.requests, List.map_append, List.filterMap_append,
          List.map_singleton]
      · rw [hnil] at hincoming
        cases hincoming
  · -- neither a line of the input nor a request
    have hnone : ((s.driver.handle e).sends.map Outgoing.line).filterMap asked? = [] :=
      Frame.asked?_of_idle (List.forall_mem_map.mpr hl)
    rw [he] at hincoming
    rw [hnone, List.append_nil]
    exact ⟨taken, left, hinput, fun _ => hincoming, hsource⟩
  · have hnone : asked = [] := hopen hfirst
    have hend : next.incoming = [] := (hintake.handle hd hi).incoming_nil hclosed
    rw [he, hend] at hincoming
    refine ⟨taken, left, hinput, fun _ => hincoming.trans hend.symm, .inr ⟨?_, ?_, hincoming⟩⟩
    · rw [hl, hnone, List.nil_append, List.filterMap_cons_some Frame.asked?_closing]
      rfl
    · rcases hsource with hsource | ⟨hsource, -⟩
      · rw [← hsource, hnone]
      · rw [hnone] at hsource
        cases hsource

theorem Requested.turn (hhear : Hearing s.script s.drive s.pair s.events) (hintake : Intake s)
    (hasking : Asking s) (h : Requested input asked s) (ht : Turn o s frames next)
    (hnext : ¬next.Doomed) : ∃ asked, Requested input asked next := by
  have hs : ¬s.Doomed := fun hd => hnext (hd.turn ht)
  cases ht with
  | write hs => exact ⟨asked, h.resume rfl rfl (by rw [hs]; rfl) (fun _ => rfl) fun hd => ⟨hd, rfl⟩⟩
  | listen hs hv =>
    refine ⟨asked, h.resume rfl rfl ?_ (fun _ => rfl) fun hd => ⟨hd, rfl⟩⟩
    rw [hs]
    exact iff_of_false id hv
  | stop hs =>
    refine ⟨asked, h.resume rfl rfl ?_ (fun _ => rfl) fun hd => ⟨hd, rfl⟩⟩
    rw [hs]
    exact iff_of_true rfl rfl
  | take hs hi => exact ⟨asked, h.take hs hi⟩
  | failScript => exact absurd (Or.inl ⟨_, rfl⟩) hnext
  | forward =>
    refine ⟨asked, h.resume rfl rfl .rfl (fun _ => rfl) fun hd => ⟨hd, ?_⟩⟩
    exact incoming_append_quiet rfl rfl (List.forall_mem_singleton.mpr rfl)
  | deafen => exact ⟨asked, h.resume rfl rfl .rfl (fun _ => rfl) fun hd => ⟨hd, rfl⟩⟩
  | hangUp hi hs hm =>
    refine ⟨asked, h.resume rfl rfl .rfl (fun _ => rfl) fun hd => ⟨hd, ?_⟩⟩
    refine incoming_append_quiet rfl rfl ?_
    rcases hm with rfl | rfl
    · exact List.forall_mem_singleton.mpr rfl
    · exact nofun
  | feed hi hm hf =>
    refine ⟨asked, h.resume rfl rfl .rfl (fun _ => rfl) fun hd => ⟨hd, ?_⟩⟩
    cases hf with
    | pass hi he =>
      unfold incoming
      rw [hi, List.filterMap_append, List.append_assoc]
      rfl
    | close hi he =>
      unfold incoming
      rw [hi, List.filterMap_append, List.append_assoc]
      rfl
    | leave he =>
      obtain ⟨f, hf⟩ := hhear.listener he
      exact absurd hf (hd f)
  | handle hd hi => exact ⟨_, h.handle hintake hasking hd hi⟩
  | tick hd ht => exact absurd ht (Driver.not_ticking hasking.mode)
  | await hd =>
    refine ⟨asked, h.resume rfl rfl .rfl (fun _ => ?_) fun _ => ⟨by rw [hd]; exact nofun, rfl⟩⟩
    unfold departing
    rw [hd]
    rfl
  | finish hd =>
    refine ⟨asked, h.resume rfl rfl .rfl (fun _ => ?_) fun hn => absurd rfl (hn none)⟩
    unfold departing
    rw [hd]
    rfl
  | failDrive => exact absurd (Or.inr (Or.inl ⟨_, rfl⟩)) hnext
  | send hd =>
    refine ⟨asked, h.resume rfl rfl .rfl (fun _ => ?_) fun _ => ⟨by rw [hd]; exact nofun, rfl⟩⟩
    unfold departing
    rw [hd, List.append_assoc]
    rfl
  | drop hd hclosed =>
    -- the session that took no more lines had stopped
    have hstops := stops_of_receiverClosed hhear hs hclosed
    exact ⟨asked, h.resume rfl rfl .rfl (fun hn => absurd hstops hn) fun _ =>
      ⟨by rw [hd]; exact nofun, rfl⟩⟩

end

/-- What holds of a launch in the mode `persistent` with the external input `input`. -/
structure Heeded (input : List String) (s : System σ) : Prop where
  hearing : Hearing s.script s.drive s.pair s.events
  intake : Intake s
  asking : Asking s
  requested : ∃ asked, Requested input asked s

theorem Heeded.turn {o : Options} {input : List String} {s next : System σ} {frames : List Frame}
    (h : Heeded input s) (ht : Turn o s frames next) (hnext : ¬next.Doomed) : Heeded input next := by
  obtain ⟨asked, hrequested⟩ := h.requested
  exact ⟨h.hearing.turn ht, h.intake.turn h.hearing ht, h.asking.turn h.hearing ht hnext,
    hrequested.turn h.hearing h.intake h.asking ht hnext⟩

theorem heeded_start (d : Dispatcher σ) (options : DriveOptions) (executor : HostCall.Executor)
    (input : List String) : Heeded input (.start d (.start .persistent options executor) (some input)) :=
  ⟨.start, intake_start d rfl input, asking_start d options executor _,
    [], requested_start d options executor input⟩

end System

namespace Launch

open ScriptLink.System

theorem requests_append (input more : List String) :
    requests (input ++ more) = requests input ++ requests more := by
  unfold requests
  rw [List.map_append, List.filterMap_append]

/-- **The reported reason**, whatever the target, the modules and their handlers, the external input and the
executor of calls are, and in whatever way the threads interleave: if a launch in the mode `persistent` ends
well, the session stopped for the reason of the first request among the external input, and the host reports
the reason of the last that it forwarded, as far as that is a text. So the reported reason is that of the
session unless a later request gave it; and if there was no request, then both have the reason of the host for
the end of the input. -/
theorem launch_reason (settings : HostSettings) (parts : HostParts σ)
    (hmode : settings.config.driveMode = .persistent) (clock : Nat → UInt64) {start last : System σ}
    {moves : List Move} {outcome : HostOutcome} (hstart : Launch.start settings parts = .ok start)
    (hlast : start.follow (Launch.options settings.config clock) moves = some last)
    (hok : last.result? = some (.ok outcome)) :
    (requests parts.input = [] → outcome.session.reason = Driver.inputClosedReason ∧
      outcome.drive.reason = some Driver.inputClosedReason) ∧
    (∀ first later, requests parts.input = first :: later →
      outcome.session.reason = Value.plainOr Dispatcher.defaultReason first ∧
      ∃ more, more <+: later ∧ outcome.drive.reason = Driver.reported (first :: more)) ∧
    ∀ r, outcome.drive.reason = some r →
      outcome.session.reason = r ∨ some (.str r) ∈ (requests parts.input).tail := by
  obtain ⟨d, -, rfl⟩ := start_eq_ok.mp hstart
  have hinput : Launch.input settings.config parts = some parts.input := by
    unfold Launch.input
    rw [hmode]
  rw [hmode, hinput] at hlast
  obtain ⟨hscript, hdrive, rfl⟩ := eq_of_result? hok
  have h : Heeded parts.input last :=
    @follow_induction _ _ (fun _ s => Heeded parts.input s) (fun h ht => h.turn ht) _ [] _ _
      (heeded_start d parts.options parts.executor parts.input) hlast
      (not_doomed_of_ended hscript hdrive)
  obtain ⟨asked, hreported, -, hobeyed, taken, rest, htaken, -, hsource⟩ := h.requested
  obtain ⟨first, later, rfl, hphase⟩ := hobeyed (by rw [hscript]; rfl)
  have hreason : last.report.reason = Value.plainOr Dispatcher.defaultReason first := by
    show last.dispatcher.phase.reason?.getD _ = _
    rw [hphase]
    rfl
  have hlater (r : String) (hr : last.driver.report.reason = some r) :
      last.report.reason = r ∨ some (.str r) ∈ later := by
    have hmem := Driver.getLast?_of_reported (hreported.symm.trans hr)
    cases later with
    | nil =>
      cases hmem
      exact .inl hreason
    | cons q qs =>
      rw [List.getLast?_cons_cons] at hmem
      exact .inr (List.mem_of_getLast? hmem)
  rcases hsource with hsource | ⟨hclosing, hnone, rfl⟩
  · have hall : requests parts.input = first :: (later ++ requests rest) := by
      rw [htaken, requests_append, ← hsource, List.cons_append]
    rw [hall]
    refine ⟨nofun, fun f more he => ?_, fun r hr => (hlater r hr).imp_right (List.mem_append_left _)⟩
    cases he
    exact ⟨hreason, later, List.prefix_append _ _, hreported⟩
  · -- the input had no request
    cases hclosing
    have hall : requests parts.input = [] := by rw [htaken, List.append_nil, hnone]
    rw [hall]
    refine ⟨fun _ => ⟨hreason, hreported⟩, nofun, fun r hr => ?_⟩
    exact .inl ((hlater r hr).resolve_right List.not_mem_nil)

/-- A launch that was followed to a good end from the point where the driver knows that the session is
ready. -/
theorem exists_launch (settings : HostSettings) (parts : HostParts σ) (o : Options) (later : List Move)
    (reasons : String × Option String) (hmode : settings.config.driveMode = .persistent)
    (h : ((Dispatcher.bootstrap settings.seed ⟨parts.importer, settings.config.fallbackSegments⟩
      parts.memory).1.toOption.bind fun d =>
        ((announced d (.start .persistent parts.options parts.executor) (some parts.input)).follow o
          later).bind fun last => last.result?.bind fun r => r.toOption.map fun outcome =>
            (outcome.session.reason, outcome.drive.reason)) = some reasons) :
    ∃ start moves last outcome, Launch.start settings parts = .ok start ∧
      start.follow o moves = some last ∧ last.result? = some (.ok outcome) ∧
      outcome.session.reason = reasons.1 ∧ outcome.drive.reason = reasons.2 := by
  obtain ⟨d, hd, h⟩ := Option.bind_eq_some_iff.mp h
  obtain ⟨last, hlater, h⟩ := Option.bind_eq_some_iff.mp h
  obtain ⟨r, hr, h⟩ := Option.bind_eq_some_iff.mp h
  obtain ⟨outcome, ho, rfl⟩ := Option.map_eq_some_iff.mp h
  have hinput : Launch.input settings.config parts = some parts.input := by
    unfold Launch.input
    rw [hmode]
  have hstart : Launch.start settings parts =
      .ok (.start d (.start .persistent parts.options parts.executor) (some parts.input)) :=
    start_eq_ok.mpr ⟨d, eq_ok_of_toOption hd, by rw [hmode, hinput]⟩
  refine ⟨_, [.session, .session, .frames, .driver, .driver] ++ later, last, outcome, hstart, ?_, ?_,
    rfl, rfl⟩
  · rw [follow_append, follow_announced d o rfl, Option.bind_some]
    exact hlater
  · rw [hr, eq_ok_of_toOption ho]

/-- One request to stop, and a line after it that comes too late. -/
theorem launch_reason_once :
    let settings : HostSettings :=
      ⟨{ Config.empty with mode := some .persistent }, ⟨some "builtin:echo", [], [], []⟩⟩
    let parts := builtinParts ["\x7b\"type\":\"shutdown\",\"reason\":\"a\"\x7d", "x"]
    ∃ start moves last outcome, Launch.start settings parts = .ok start ∧
      start.follow (Launch.options settings.config fun _ => 0) moves = some last ∧
      last.result? = some (.ok outcome) ∧ outcome.drive.reason = some "a" ∧
      outcome.session.reason = "a" := by
  intro settings parts
  let later : List Move := [.input, .input, .driver, .driver, .driver, .session, .session, .session,
    .driver, .driver, .driver, .frames, .driver, .driver]
  obtain ⟨start, moves, last, outcome, hstart, hlast, hok, -, hdrive⟩ :=
    exists_launch settings parts (Launch.options settings.config fun _ => 0) later ("a", some "a") rfl
      (by decide +kernel)
  obtain ⟨-, -, hreason⟩ := launch_reason settings parts rfl (fun _ => 0) hstart hlast hok
  have hone : (requests parts.input).tail.length = 0 := by decide +kernel
  refine ⟨start, moves, last, outcome, hstart, hlast, hok, hdrive, ?_⟩
  rcases hreason "a" hdrive with hsame | hmem
  · exact hsame
  · rw [List.eq_nil_of_length_eq_zero hone] at hmem
    cases hmem

/-- Two requests to stop, of which the session obeys the first and the host reports the second. -/
theorem launch_reason_overwritten :
    let settings : HostSettings :=
      ⟨{ Config.empty with mode := some .persistent }, ⟨some "builtin:echo", [], [], []⟩⟩
    let parts := builtinParts ["\x7b\"type\":\"shutdown\",\"reason\":\"a\"\x7d",
      "\x7b\"type\":\"shutdown\",\"reason\":\"b\"\x7d"]
    ∃ start moves last outcome, Launch.start settings parts = .ok start ∧
      start.follow (Launch.options settings.config fun _ => 0) moves = some last ∧
      last.result? = some (.ok outcome) ∧ outcome.session.reason = "a" ∧
      outcome.drive.reason = some "b" := by
  intro settings parts
  let later : List Move := [.input, .input, .driver, .driver, .driver, .driver, .driver, .driver,
    .session, .session, .session, .frames, .driver, .driver]
  exact exists_launch _ _ _ later ("a", some "b") rfl (by decide +kernel)

end Launch

end ScriptLink
