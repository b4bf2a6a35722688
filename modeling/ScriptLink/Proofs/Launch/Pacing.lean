import ScriptLink.Proofs.Launch.Delivery

/-!
# ScriptLink.Proofs.Launch.Pacing — pings and the shutdown after them

* `Progress`: in the mode `oneshot` a drive sends pings, asks for one shutdown after them all, and sends
  none to a session that stops.
* `Paced`: every ping is on its way, or its sign of life is written or about to be. It outlives every
  turn.
-/

namespace ScriptLink

open ScriptLink.Frame (tells)

/-- The lines that are about to be sent. -/
def DriveStage.unsent : DriveStage → List String
  | .sending lines _ => lines.map Outgoing.line
  | _ => []

/-! ## Shutdowns in the mode `oneshot` -/

/-- How far a drive came whose lines `departing` the session did not take yet. -/
inductive Progress (script : ScriptStage) (phase : Phase) (departing : List String) (d : Driver) :
    Prop
  | pinging (hd : d.shutdown = false) (hs : script.Goes)
      (hq : ∀ line ∈ departing, tells .shutdown line = false)
      (hb : d.report.pings = 0 ∨ d.report.pings < d.options.maxPings)
  | asking {reason before after} (hd : d.shutdown = true) (hr : d.report.reason = some reason)
      (hs : script.Goes) (hq : departing = before ++ (Frame.shutdownFor reason).encode :: after)
      (hbefore : ∀ line ∈ before, tells .shutdown line = false)
      (hafter : ∀ line ∈ after, tells .ping line = false)
  | stopping {reason} (hd : d.shutdown = true) (hr : d.report.reason = some reason)
      (hs : script.Stops) (hp : phase = .shuttingDown reason)
      (hq : ∀ line ∈ departing, tells .ping line = false)

namespace Progress

variable {script : ScriptStage} {phase : Phase} {departing : List String} {d : Driver}

/-- The session may go from one stage to another if it goes on or stops all the same. -/
theorem restage {stage : ScriptStage} (h : Progress script phase departing d)
    (hg : script.Goes → stage.Goes) (hs : script.Stops → stage.Stops) :
    Progress stage phase departing d := by
  cases h with
  | pinging hd hgoes hq hb => exact .pinging hd (hg hgoes) hq hb
  | asking hd hr hgoes hq hbefore hafter => exact .asking hd hr (hg hgoes) hq hbefore hafter
  | stopping hd hr hstops hp hq => exact .stopping hd hr (hs hstops) hp hq

theorem goes_take {σ : Type} (disp : Dispatcher σ) (now : UInt64) {line : String}
    (h : tells .shutdown line = false) :
    (disp.dispatch now (Frame.decode line)).verdict ≠ .stop := by
  intro hv
  rw [Frame.tells_iff.mpr ((Dispatcher.verdict_stop_iff now _ disp).mp hv)] at h
  cases h

/-- A session that takes the shutdown stops for its reason. -/
theorem take {σ : Type} {disp : Dispatcher σ} {line : String} {rest : List String}
    (h : Progress .reading disp.phase (line :: rest) d) (now : UInt64) :
    let r := disp.dispatch now (Frame.decode line)
    Progress (.writing r.replies r.verdict) r.next.phase rest d := by
  intro r
  cases h with
  | pinging hd hgoes hq hb =>
    exact .pinging hd (goes_take disp now (hq line List.mem_cons_self))
      (fun l hl => hq l (List.mem_cons_of_mem _ hl)) hb
  | @asking reason before after hd hr hgoes hq hbefore hafter =>
    -- the next line is the shutdown itself or one sent before it
    cases before with
    | nil =>
      obtain ⟨rfl, rfl⟩ := List.cons.inj hq
      have hrfl : r = disp.dispatch now (Frame.shutdownFor reason) := by
        show disp.dispatch now (Frame.decode _) = _
        rw [Frame.decode_shutdownFor]
      rw [hrfl]
      exact .stopping hd hr rfl rfl hafter
    | cons first before =>
      obtain ⟨rfl, rfl⟩ := List.cons.inj hq
      exact .asking hd hr (goes_take disp now (hbefore line List.mem_cons_self)) rfl
        (fun l hl => hbefore l (List.mem_cons_of_mem _ hl)) hafter
  | stopping hd hr hstops => exact hstops.elim

/-- A reaction that is none of the progress leaves it as it is. -/
theorem calm {r : Reaction} (h : Progress script phase departing d) (hr : Driver.Calm d r) :
    Progress script phase (departing ++ r.sends.map Outgoing.line) r.next := by
  have hping := hr.tells_ping
  have hstop := hr.tells_shutdown
  cases h with
  | pinging hd hgoes hq hb =>
    refine .pinging (hr.shutdown.trans hd) hgoes (List.forall_mem_append.mpr ⟨hq, hstop⟩) ?_
    rw [hr.pings, hr.options]
    exact hb
  | asking hd hreason hgoes hq hbefore hafter =>
    refine .asking (hr.shutdown.trans hd) (hr.reason.trans hreason) hgoes ?_ hbefore
      (List.forall_mem_append.mpr ⟨hafter, hping⟩)
    rw [hq, List.append_assoc, List.cons_append]
  | stopping hd hreason hstops hp hq =>
    exact .stopping (hr.shutdown.trans hd) (hr.reason.trans hreason) hstops hp
      (List.forall_mem_append.mpr ⟨hq, hping⟩)

/-- A line that cannot reach a session any more is no ping. -/
theorem drop {first rest : List String} {line : String}
    (h : Progress script phase (first ++ line :: rest) d) (hs : ¬script.Goes) :
    tells .ping line = false ∧ Progress script phase (first ++ rest) d := by
  cases h with
  | pinging _ hgoes | asking _ _ hgoes => exact absurd hgoes hs
  | stopping hd hr hstops hp hq =>
    obtain ⟨hfirst, hrest⟩ := List.forall_mem_append.mp hq
    obtain ⟨hline, hrest⟩ := List.forall_mem_cons.mp hrest
    exact ⟨hline, .stopping hd hr hstops hp (List.forall_mem_append.mpr ⟨hfirst, hrest⟩)⟩

/-- The end of an interval brings about a ping, and perhaps the shutdown after it. -/
theorem tick (h : Progress script phase departing d) (hd : d.shutdown = false)
    (hmax : d.options.maxPings < 18446744073709551616) :
    Progress script phase (departing ++ d.tick.sends.map Outgoing.line) d.tick.next ∧
      d.tick.next.report.pings = d.report.pings + 1 ∧
      (d.tick.sends.map Outgoing.line).countP (tells .ping) = 1 := by
  cases h with
  | asking h' | stopping h' =>
    rw [h'] at hd
    cases hd
  | pinging _ hgoes hq hb =>
    have hseq : d.report.pings + 1 < 18446744073709551616 := by omega
    have hnot := Driver.tells_shutdown_pingLine hseq
    have hping := Driver.tells_pingLine hseq
    rcases d.tick_cases with ⟨hn, hs, hlt⟩ | ⟨reason, -, hn, hs⟩
    · rw [hn, hs]
      refine ⟨.pinging hd hgoes (List.forall_mem_append.mpr ⟨hq, ?_⟩) (Or.inr hlt), rfl, ?_⟩
      · exact List.forall_mem_singleton.mpr hnot
      · simp [Driver.outgoing, hping]
    · have hlast : tells .ping (Frame.shutdownFor reason).encode = false :=
        Frame.tells_shutdownFor .ping reason
      rw [hn, hs]
      refine ⟨.asking rfl rfl hgoes (List.append_cons _ _ _)
        (List.forall_mem_append.mpr ⟨hq, List.forall_mem_singleton.mpr hnot⟩)
        (List.forall_mem_nil _), rfl, ?_⟩
      simp [Driver.outgoing, hping, hlast]

end Progress

namespace System

/-- The lines of the host that the session did not take yet. -/
def departing (s : System σ) : List String := s.pair.toScript.items ++ s.drive.unsent

/-! ## Pings -/

/-- Every ping is on its way, or it was answered by a frame that is among `sent` or about to be. -/
structure Paced (sent : List Frame) (s : System σ) : Prop where
  inputClosed : s.driver.inputClosed = false
  input : s.input = none
  events : ∀ e ∈ s.events.items, e = .scriptClosed ∨ e.line? ≠ none
  maxPings : s.driver.options.maxPings < 18446744073709551616
  pings : s.driver.report.pings = s.departing.countP (tells .ping) +
    (sent ++ s.script.unwritten).countP (·.kind == .pong)
  progress : Progress s.script s.dispatcher.phase s.departing s.driver

variable {sent : List Frame} {s : System σ}

/-- What a waiting driver begins to send comes after the lines on their way. -/
theorem Paced.react (h : Paced sent s) (hd : s.drive = .waiting) {r : Reaction}
    {q : Queue HostEvent} (hq : ∀ e ∈ q.items, e = .scriptClosed ∨ e.line? ≠ none)
    (hc : r.next.inputClosed = s.driver.inputClosed) (ho : r.next.options = s.driver.options)
    (hn : r.next.report.pings =
      s.driver.report.pings + (r.sends.map Outgoing.line).countP (tells .ping))
    (hp : Progress s.script s.dispatcher.phase (s.departing ++ r.sends.map Outgoing.line) r.next) :
    Paced sent ({ s with events := q }.react r) := by
  have hdep : s.departing = s.pair.toScript.items := by
    unfold departing
    rw [hd]
    exact List.append_nil _
  have hpings := h.pings
  rw [hdep] at hpings hp
  refine ⟨hc.trans h.inputClosed, h.input, hq, ?_, ?_, hp⟩
  · show r.next.options.maxPings < _
    rw [ho]
    exact h.maxPings
  · show r.next.report.pings =
      (s.pair.toScript.items ++ r.sends.map Outgoing.line).countP (tells .ping) +
        (sent ++ s.script.unwritten).countP (·.kind == .pong)
    simp only [hn, hpings, List.countP_append]
    omega

theorem Paced.take (h : Paced sent s) {o : Options} {line : String} {rest : List String}
    (hs : s.script = .reading) (hi : s.pair.toScript.items = line :: rest) :
    Paced sent ({ s with pair.toScript.items := rest }.takeLine o line) := by
  obtain ⟨hclosed, hinput, hevents, hmax, hpings, hprogress⟩ := h
  have hd : s.departing = line :: (rest ++ s.drive.unsent) := by
    unfold departing
    rw [hi, List.cons_append]
  rw [hd, hs] at hprogress
  refine ⟨hclosed, hinput, hevents, hmax, ?_, hprogress.take _⟩
  have hpong := Dispatcher.countP_pong_replies (o.clock s.framesIn) (Frame.decode line) s.dispatcher
  have happ := @List.countP_append _ (fun f : Frame => f.kind == .pong) sent
    (s.dispatcher.dispatch (o.clock s.framesIn) (Frame.decode line)).replies
  show s.driver.report.pings = (rest ++ s.drive.unsent).countP (tells .ping) +
    (sent ++ (s.dispatcher.dispatch (o.clock s.framesIn) (Frame.decode line)).replies).countP _
  rw [hd, hs, List.countP_cons] at hpings
  rw [happ, hpong]
  have hsent : (sent ++ ScriptStage.unwritten .reading) = sent := List.append_nil _
  rw [hsent] at hpings
  unfold tells at hpings ⊢
  -- a ping leaves the queue just when its sign of life is about to be written
  by_cases hk : (Frame.decode line).kind = .ping
  · simp only [hk, beq_self_eq_true, if_true] at hpings ⊢
    omega
  · simp only [hk, beq_iff_eq, if_false] at hpings ⊢
    omega

theorem Paced.turn {o : Options} {next : System σ} {frames : List Frame}
    (hhear : Hearing s.script s.drive s.pair s.events) (h : Paced sent s)
    (ht : Turn o s frames next) (hnext : ¬next.Doomed) : Paced (sent ++ frames) next := by
  have ⟨hclosed, hinput, hevents, hmax, hpings, hprogress⟩ := h
  cases ht with
  | @write f rest v hs =>
    rw [hs] at hpings hprogress
    refine ⟨hclosed, hinput, hevents, hmax, ?_, hprogress.restage id id⟩
    show s.driver.report.pings = s.departing.countP _ + (sent ++ [f] ++ rest).countP _
    rw [List.append_assoc, hpings]
    rfl
  | listen hs hv =>
    rw [List.append_nil]
    rw [hs] at hpings hprogress
    exact ⟨hclosed, hinput, hevents, hmax, hpings, hprogress.restage (fun _ => trivial) hv⟩
  | stop hs =>
    rw [List.append_nil]
    rw [hs] at hpings hprogress
    refine ⟨hclosed, hinput, hevents, hmax, hpings, hprogress.restage ?_ fun _ => rfl⟩
    exact fun hg => hg rfl
  | take hs hi =>
    rw [List.append_nil]
    exact h.take hs hi
  | failScript => exact absurd (Or.inl ⟨_, rfl⟩) hnext
  | forward =>
    rw [List.append_nil]
    refine ⟨hclosed, hinput, List.forall_mem_append.mpr ⟨hevents, ?_⟩, hmax, hpings, hprogress⟩
    exact List.forall_mem_singleton.mpr (Or.inr nofun)
  | deafen =>
    rw [List.append_nil]
    exact ⟨hclosed, hinput, hevents, hmax, hpings, hprogress⟩
  | hangUp _ _ hm =>
    rw [List.append_nil]
    refine ⟨hclosed, hinput, List.forall_mem_append.mpr ⟨hevents, ?_⟩, hmax, hpings, hprogress⟩
    rcases hm with rfl | rfl
    · exact List.forall_mem_singleton.mpr (Or.inl rfl)
    · exact nofun
  | feed hi => exact absurd hinput hi
  | @handle e rest hd hi =>
    rw [List.append_nil]
    rw [hi] at hevents
    have hcalm := Driver.calm_handle hclosed (hevents e List.mem_cons_self)
    have hnone : ((s.driver.handle e).sends.map Outgoing.line).countP (tells .ping) = 0 :=
      List.countP_eq_zero.mpr fun line hl => Bool.eq_false_iff.mp (hcalm.tells_ping line hl)
    refine h.react hd (fun e he => hevents e (List.mem_cons_of_mem _ he)) hcalm.inputClosed
      hcalm.options ?_ (hprogress.calm hcalm)
    rw [hcalm.pings, hnone, Nat.add_zero]
  | tick hd ht =>
    rw [List.append_nil]
    obtain ⟨hc, ho⟩ := s.driver.tick_settings
    obtain ⟨hprogress, hn, hone⟩ := hprogress.tick (Driver.shutdown_of_ticking ht) hmax
    refine h.react hd hevents hc ho ?_ hprogress
    rw [hn, hone]
  | await hd | finish hd =>
    rw [List.append_nil]
    have hdep : s.departing = s.pair.toScript.items ++ [] := by
      unfold departing
      rw [hd]
      rfl
    rw [hdep] at hpings hprogress
    exact ⟨hclosed, hinput, hevents, hmax, hpings, hprogress⟩
  | failDrive => exact absurd (Or.inr (Or.inl ⟨_, rfl⟩)) hnext
  | @send l rest q hd =>
    rw [List.append_nil]
    have hdep : s.departing = s.pair.toScript.items ++ [l.line] ++ rest.map Outgoing.line := by
      unfold departing
      rw [hd, List.append_assoc]
      rfl
    rw [hdep] at hpings hprogress
    exact ⟨hclosed, hinput, hevents, hmax, hpings, hprogress⟩
  | @drop l rest q hd hgone =>
    rw [List.append_nil]
    have hdep : s.departing = s.pair.toScript.items ++ l.line :: rest.map Outgoing.line := by
      unfold departing
      rw [hd]
      rfl
    -- the session ended, so by its progress the drive sends no more pings
    obtain ⟨f, hf⟩ := hhear.receiver hgone
    rw [hdep] at hpings hprogress
    obtain ⟨hnot, hprogress⟩ := hprogress.drop (by rw [hf]; exact id)
    refine ⟨hclosed, hinput, hevents, hmax, ?_, hprogress⟩
    show s.driver.report.pings =
      (s.pair.toScript.items ++ rest.map Outgoing.line).countP (tells .ping) +
        (sent ++ s.script.unwritten).countP (·.kind == .pong)
    rw [hpings]
    simp [List.countP_append, hnot]

end System

end ScriptLink
