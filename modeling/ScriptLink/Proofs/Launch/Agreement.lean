import ScriptLink.Proofs.Launch.Pacing

/-!
# ScriptLink.Proofs.Launch.Agreement — both sides tell the same of a launch that ends well

* `System.Sane` puts together what every turn keeps of a system.
* `launch_agrees`: in whatever way the threads of a launch interleave, if both sides end in good order
  then the host heard the reason for which the session stopped and every sign of life and call that the
  session wrote; in the mode `oneshot` every ping was answered besides.
-/

namespace ScriptLink

namespace System

/-- What holds of the frames `sent` so far and the system, in the mode `oneshot` or in any. -/
structure Sane (oneshot : Prop) (sent : List Frame) (s : System σ) : Prop where
  speech : Speech sent s.script s.dispatcher
  hearing : Hearing s.script s.drive s.pair s.events
  delivery : Delivery sent s
  paced : oneshot → Paced sent s

theorem Sane.turn {oneshot : Prop} {o : Options} {sent frames : List Frame} {s next : System σ}
    (h : Sane oneshot sent s) (ht : Turn o s frames next) (hnext : ¬next.Doomed) :
    Sane oneshot (sent ++ frames) next where
  speech := h.speech.turn ht
  hearing := h.hearing.turn ht
  delivery := h.delivery.turn h.speech h.hearing ht hnext
  paced hm := (h.paced hm).turn h.hearing ht hnext

theorem sane_start {oneshot : Prop} {d : Dispatcher σ} (hd : d.Careful) (mode : DriveMode)
    {options : DriveOptions} (executor : HostCall.Executor) {input : Option (List String)}
    (hinput : oneshot → input = none) (hmax : options.maxPings < 18446744073709551616) :
    Sane oneshot [] (.start d (.start mode options executor) input) where
  speech := .ready hd
  hearing := .start
  delivery := ⟨fun _ => ⟨[], rfl, ⟨rfl, rfl, nofun, nofun⟩, nofun⟩, nofun⟩
  paced hm := ⟨rfl, hinput hm, nofun, hmax, rfl,
    .pinging rfl Verdict.noConfusion nofun (Or.inl rfl)⟩

/-- A launch that ends well was given up by neither side. -/
theorem eq_of_result? {s : System σ} {outcome : HostOutcome}
    (h : s.result? = some (.ok outcome)) :
    s.script = .ended none ∧ s.drive = .ended none ∧ outcome = ⟨s.report, s.driver.report⟩ := by
  unfold result? at h
  split at h
  · rename_i script drive hs hd
    have h := Option.some.inj h
    unfold settle at h
    split at h
    · cases h
      exact ⟨hs, hd, rfl⟩
    · cases h
    · cases h
    · cases h
  · cases h

/-- The lines that are decoded as signs of life or calls are those of such frames. -/
theorem countP_encode {sent : List Frame} {k : Frame.Kind} (hk : k = .pong ∨ k = .hostCall)
    (h : ∀ f ∈ sent, f.kind = .pong ∨ f.kind = .hostCall → (Frame.decode f.encode).kind = f.kind) :
    (sent.map Frame.encode).countP (Frame.tells k) = sent.countP (·.kind == k) := by
  rw [List.countP_map]
  refine List.countP_congr fun f hf => ?_
  rw [Function.comp_apply, beq_iff_eq]
  constructor
  · intro ht
    refine Frame.kind_of_tells_encode ?_ ht
    rcases hk with rfl | rfl <;> decide
  · intro hkind
    rw [Frame.tells_iff, h f hf (hkind ▸ hk), hkind]

end System

namespace Launch

open ScriptLink.System

/-- **Agreement of the two sides**: whatever the target, the modules, the mode, the external input and the
budget of pings, a word of 64 bits, are, and in whatever way the threads interleave, if the launch ends
well then the reason that the host heard acknowledged is that of the session, and the host counted exactly
the signs of life that the session wrote and answered exactly its calls. In the mode `oneshot` every ping was
answered besides, and the session stopped for the reason that the host gave. -/
theorem launch_agrees (settings : HostSettings) (memory : Memory) (executor : HostCall.Executor)
    (options : DriveOptions) (hmax : options.maxPings < 18446744073709551616) (input : List String)
    (clock : Nat → UInt64) {start last : System Memory} {moves : List Move} {outcome : HostOutcome}
    (hstart : Launch.start settings ⟨Builtin.registry.importer, memory, executor, options, input⟩ =
      .ok start)
    (hlast : start.follow (Launch.options settings.config clock) moves = some last)
    (hok : last.result? = some (.ok outcome)) :
    let written := start.written (Launch.options settings.config clock) moves
    outcome.drive.acknowledged = some outcome.session.reason ∧
    outcome.drive.pongs = written.countP (·.kind == .pong) ∧
    outcome.drive.served = written.countP (·.kind == .hostCall) ∧
    (settings.config.driveMode = .oneshot →
      outcome.drive.pongs = outcome.drive.pings ∧
      outcome.drive.reason = some outcome.session.reason) := by
  intro written
  obtain ⟨hscript, hdrive, rfl⟩ := eq_of_result? hok
  have hsane : Sane (settings.config.driveMode = .oneshot) [] start := by
    obtain ⟨d, hd, rfl⟩ := start_eq_ok.mp hstart
    refine sane_start (Dispatcher.careful_bootstrap (Builtin.careful_builtin _) hd) _ _ ?_ hmax
    intro hm
    unfold Launch.input
    rw [hm]
  have h : Sane (settings.config.driveMode = .oneshot) ([] ++ written) last :=
    follow_induction Sane.turn hsane hlast (not_doomed_of_ended hscript hdrive)
  rw [List.nil_append] at h
  obtain ⟨hspeech, -, hdelivery, hpaced⟩ := h
  have hfinished : last.drive.Finished := by
    rw [hdrive]
    rfl
  -- the driver took and counted every line
  obtain ⟨-, -, ⟨hpongs, hserved, -⟩, hack⟩ := hdelivery.finished hfinished
  have hsound := hspeech.sound
  rw [hscript] at hspeech hsound
  have hall : written ++ ScriptStage.unwritten (.ended none) = written := List.append_nil _
  rw [hall] at hsound
  rw [countP_encode (.inl rfl) hsound] at hpongs
  rw [countP_encode (.inr rfl) hsound] at hserved
  -- the session stopped, so it knows a reason
  obtain ⟨reason, -, hphase, -⟩ := hspeech.stops rfl
  have hreason : last.report.reason = reason := by
    show last.dispatcher.phase.reason?.getD _ = reason
    rw [hphase]
    rfl
  refine ⟨?_, hpongs, hserved, fun hm => ?_⟩
  · rw [hack, hphase, hreason]
    rfl
  · obtain ⟨-, -, -, -, hpings, hprogress⟩ := hpaced hm
    rw [hscript] at hpings hprogress
    cases hprogress with
    | pinging _ hgoes | asking _ _ hgoes => exact hgoes.elim
    | @stopping why _ hr _ hp hq =>
      -- what the session did not take any more holds no ping
      have hnone : last.departing.countP (Frame.tells .ping) = 0 :=
        List.countP_eq_zero.mpr fun line hl => Bool.eq_false_iff.mp (hq line hl)
      rw [hnone, hall, Nat.zero_add] at hpings
      rw [hphase] at hp
      cases hp
      rw [hreason]
      exact ⟨hpongs.trans hpings.symm, hr⟩

/-- One ping, its sign of life with the call that goes with it, and the shutdown after it. -/
theorem launch_agrees_one_ping :
    let settings : HostSettings := ⟨.empty, ⟨some "builtin:relay", [], [], []⟩⟩
    let o := Launch.options settings.config fun _ => 0
    let later : List Move := [.tick, .driver, .driver, .driver, .session, .session, .session,
      .session, .frames, .frames, .driver, .driver, .driver, .driver, .driver, .session, .session,
      .session, .frames, .driver, .driver]
    let moves : List Move := [.session, .session, .frames, .driver, .driver] ++ later
    ∃ start last outcome,
      Launch.start settings ⟨Builtin.registry.importer, .empty, HostCall.execute,
        { maxPings := 1 }, []⟩ = .ok start ∧
      start.follow o moves = some last ∧ last.result? = some (.ok outcome) ∧
      outcome.drive.pings = 1 ∧ (start.written o moves).countP (·.kind == .pong) = 1 ∧
      outcome.drive.served = (start.written o moves).countP (·.kind == .hostCall) ∧
      outcome.drive.acknowledged = outcome.drive.reason := by
  intro settings o later moves
  have hlater : ((Dispatcher.bootstrap settings.seed ⟨Builtin.registry.importer, []⟩
      Memory.empty).1.toOption.bind fun d =>
        ((announced d (.start .oneshot { maxPings := 1 } HostCall.execute) none).follow o later).bind
          fun last => last.result?.bind fun r =>
            r.toOption.map fun outcome => outcome.drive.pings) = some 1 := by
    decide +kernel
  obtain ⟨d, hd, hlater⟩ := Option.bind_eq_some_iff.mp hlater
  obtain ⟨last, hlast, hlater⟩ := Option.bind_eq_some_iff.mp hlater
  obtain ⟨r, hr, hlater⟩ := Option.bind_eq_some_iff.mp hlater
  obtain ⟨outcome, ho, hpings⟩ := Option.map_eq_some_iff.mp hlater
  have hstart : Launch.start settings ⟨Builtin.registry.importer, .empty, HostCall.execute,
      { maxPings := 1 }, []⟩ = .ok (.start d (.start .oneshot { maxPings := 1 } HostCall.execute)
        none) :=
    start_eq_ok.mpr ⟨d, eq_ok_of_toOption hd, rfl⟩
  have hall : (System.start d (.start .oneshot { maxPings := 1 } HostCall.execute) none).follow o
      moves = some last := by
    rw [follow_append, follow_announced d o rfl, Option.bind_some]
    exact hlast
  rw [eq_ok_of_toOption ho] at hr
  obtain ⟨hack, hpongs, hserved, hshot⟩ := launch_agrees settings .empty HostCall.execute
    { maxPings := 1 } (by decide) [] (fun _ => 0) hstart hall hr
  obtain ⟨hequal, hreason⟩ := hshot rfl
  refine ⟨_, last, outcome, hstart, hall, hr, hpings, ?_, hserved, hack.trans hreason.symm⟩
  rw [← hpongs, hequal, hpings]

end Launch

end ScriptLink
