import ScriptLink.Proofs.Launch.Agreement
import ScriptLink.Proofs.Launch.Steadfast
import ScriptLink.Proofs.Launch.Termination

/-!
# ScriptLink.Proofs.Launch.Confluence — the order of moves does not matter

* `System.Complete`: no more comes of a launch. If neither side failed, both have ended then
  (`Steadfast.over`).
* `Matches`: what a launch that ends well comes to can be read off the transcript that was foreseen.
* `launch_confluent`: if a launch in the mode `persistent` ends well in one way in which its threads
  interleave, then it ends in any, and well, and to the same effect.
-/

namespace ScriptLink

open ScriptLink.Frame (remarks)

namespace System

/-- No more comes of a launch: both sides have ended, or no thread can go on. -/
def Complete (o : Options) (s : System σ) : Prop :=
  s.result?.isSome ∨ ∀ m, s.step o m = none

section

variable {o : Options} {t : Transcript σ} {sent : List Frame} {s last : System σ}

/-- Where the transcript is clean, a launch stays as it should in whatever way the threads interleave. -/
theorem Steadfast.follow (h : Steadfast t sent s) (ho : o.limit = none) (ht : t.Clean)
    (hs : ¬s.Doomed) {moves : List Move} (hf : s.follow o moves = some last) :
    (∃ sent, Steadfast t sent last) ∧ ¬last.Doomed := by
  induction moves generalizing sent s with
  | nil =>
    cases hf
    exact ⟨⟨sent, h⟩, hs⟩
  | cons m rest ih =>
    obtain ⟨next, hm, hf⟩ := Option.bind_eq_some_iff.mp hf
    have hturn := turn_of_step hm
    have hnext := h.not_doomed_of_clean ho ht hs hturn
    exact ih (h.turn hturn hnext) hnext hf

/-- A launch of which no more comes, and in which neither side failed, ended well. -/
theorem Steadfast.over (h : Steadfast t sent s) (hs : ¬s.Doomed) (hcomplete : s.Complete o) :
    s.script = .ended none ∧ s.drive = .ended none := by
  rcases hcomplete with hresult | hstuck
  · obtain ⟨hscript, hdrive, -⟩ := not_doomed_iff.mp hs
    unfold result? at hresult
    split at hresult
    · rename_i f g hf hg
      cases f with
      | some f => exact absurd hf (hscript f)
      | none =>
        cases g with
        | some g => exact absurd hg (hdrive g)
        | none => exact ⟨hf, hg⟩
    · cases hresult
  · exact h.over_of_stuck hs hstuck

/-- What a launch that ends well comes to is what was foreseen. -/
structure Matches (t : Transcript σ) (outcome : HostOutcome) : Prop where
  reason : outcome.session.reason = t.final.phase.reason?.getD Dispatcher.defaultReason
  state : outcome.session.state = t.final.scene.state
  acknowledged : outcome.drive.acknowledged = t.final.phase.reason?
  pongs : outcome.drive.pongs = (remarks t.written).count .pong
  served : outcome.drive.served = (remarks t.written).count .hostCall

theorem Steadfast.matches_outcome (h : Steadfast t sent s) (hs : s.script = .ended none)
    (hd : s.drive = .ended none) : Matches t ⟨s.report, s.driver.report⟩ := by
  obtain ⟨hheard, hfinal, -⟩ := h.resembles hs
  obtain ⟨-, -, hcount, hack⟩ := h.delivery.finished (by rw [hd]; rfl)
  have hphase : s.dispatcher.phase = t.final.phase := hfinal.phase
  have hremarks : remarks sent = remarks t.written := hheard
  refine ⟨?_, hfinal.scene.state, ?_, ?_, ?_⟩
  · show s.dispatcher.phase.reason?.getD _ = _
    rw [hphase]
  · exact hack.trans (congrArg Phase.reason? hphase)
  · rw [← hremarks, ← Frame.countP_remarks rfl]
    exact hcount.pongs
  · rw [← hremarks, ← Frame.countP_remarks rfl]
    exact hcount.served

end

end System

namespace Launch

open ScriptLink.System

/-- **Confluence**: whatever the target, the modules, the external input and the executor of calls are, in
the mode `persistent` and if reads wait as long as it takes, no interleaving of the threads goes on for
ever, whenever its moves are made. If a launch ends well in one interleaving then it ends well in
every other of which no more comes; the session stops for the same reason and in the same state, the
host hears the same acknowledgement, counts as many signs of life and answers as many calls. -/
theorem launch_confluent (settings : HostSettings) (memory : Memory) (executor : HostCall.Executor)
    (options : DriveOptions) (input : List String) (hmode : settings.config.driveMode = .persistent)
    (hlimit : settings.config.limit? = none) (clock : Nat → UInt64) {start last : System Memory}
    {moves : List Move} {outcome : HostOutcome}
    (hstart : Launch.start settings ⟨Builtin.registry.importer, memory, executor, options, input⟩ =
      .ok start)
    (hlast : start.follow (Launch.options settings.config clock) moves = some last)
    (hok : last.result? = some (.ok outcome)) (clock' : Nat → UInt64) :
    let o := Launch.options settings.config clock'
    (∀ schedule : Nat → Move, ∃ n, start.follow o ((List.range n).map schedule) = none) ∧
    ∀ others final, start.follow o others = some final → final.Complete o →
      ∃ outcome', final.result? = some (.ok outcome') ∧
        outcome'.session.reason = outcome.session.reason ∧
        outcome'.session.state = outcome.session.state ∧
        outcome'.drive.acknowledged = outcome.drive.acknowledged ∧
        outcome'.drive.pongs = outcome.drive.pongs ∧
        outcome'.drive.served = outcome.drive.served := by
  intro o
  obtain ⟨d, hd, rfl⟩ := start_eq_ok.mp hstart
  have htame : d.Tame := Dispatcher.tame_builtin hd
  have hinput : Launch.input settings.config
      ⟨Builtin.registry.importer, memory, executor, options, input⟩ = some input := by
    unfold Launch.input
    rw [hmode]
  rw [hmode, hinput] at hlast ⊢
  -- both runs are held against what is foreseen at the beginning
  have h := steadfast_start htame options executor input
  obtain ⟨hscript, hdrive, rfl⟩ := eq_of_result? hok
  have hrun := follow_induction Steadfast.turn h hlast (not_doomed_of_ended hscript hdrive)
  have hclean := hrun.clean hscript hdrive
  have hmatches := hrun.matches_outcome hscript hdrive
  refine ⟨exists_blocked htame rfl, fun others final hothers hcomplete => ?_⟩
  have hbegin : ¬System.Doomed (.start d (.start .persistent options executor) (some input)) :=
    not_doomed_iff.mpr ⟨nofun, nofun, nofun⟩
  obtain ⟨⟨sent, hother⟩, hend⟩ := h.follow hlimit hclean hbegin hothers
  obtain ⟨hscript', hdrive'⟩ := hother.over hend hcomplete
  have hmatches' := hother.matches_outcome hscript' hdrive'
  refine ⟨⟨final.report, final.driver.report⟩, ?_, ?_, ?_, ?_, ?_, ?_⟩
  · unfold result?
    rw [hscript', hdrive']
    rfl
  · exact hmatches'.reason.trans hmatches.reason.symm
  · exact hmatches'.state.trans hmatches.state.symm
  · exact hmatches'.acknowledged.trans hmatches.acknowledged.symm
  · exact hmatches'.pongs.trans hmatches.pongs.symm
  · exact hmatches'.served.trans hmatches.served.symm

/-- One message that is relayed to the host, and then the end of the input: the call is answered, and the
session stops for that end, whether or not the answer still reaches it. -/
theorem launch_confluent_relay :
    let settings : HostSettings :=
      ⟨{ Config.empty with mode := some .persistent }, ⟨some "builtin:relay", [], [], []⟩⟩
    ∃ start, Launch.start settings
        ⟨Builtin.registry.importer, .empty, HostCall.execute, {}, ["hi"]⟩ = .ok start ∧
      ∀ clock others last, start.follow (Launch.options settings.config clock) others = some last →
        last.Complete (Launch.options settings.config clock) →
        ∃ outcome, last.result? = some (.ok outcome) ∧
          outcome.session.reason = Driver.inputClosedReason ∧ outcome.drive.served = 1 := by
  intro settings
  let o := Launch.options settings.config fun _ => 0
  let later : List Move := [.input, .input, .driver, .driver, .driver, .driver, .driver, .driver,
    .session, .session, .session, .session, .session, .session, .session, .frames, .frames, .frames,
    .driver, .driver, .driver, .driver, .driver, .driver, .driver]
  have hrun : ((Dispatcher.bootstrap settings.seed ⟨Builtin.registry.importer, []⟩
      Memory.empty).1.toOption.bind fun d =>
        ((announced d (.start .persistent {} HostCall.execute) (some ["hi"])).follow o later).bind
          fun last => last.result?.bind fun r => r.toOption.map fun outcome =>
            (outcome.session.reason, outcome.drive.served)) =
      some (Driver.inputClosedReason, 1) := by
    decide +kernel
  obtain ⟨d, hd, hrun⟩ := Option.bind_eq_some_iff.mp hrun
  obtain ⟨last, hlater, hrun⟩ := Option.bind_eq_some_iff.mp hrun
  obtain ⟨r, hr, hrun⟩ := Option.bind_eq_some_iff.mp hrun
  obtain ⟨outcome, ho, hboth⟩ := Option.map_eq_some_iff.mp hrun
  obtain ⟨hreason, hserved⟩ := Prod.mk.inj hboth
  have hstart : Launch.start settings
      ⟨Builtin.registry.importer, .empty, HostCall.execute, {}, ["hi"]⟩ =
      .ok (.start d (.start .persistent {} HostCall.execute) (some ["hi"])) :=
    start_eq_ok.mpr ⟨d, eq_ok_of_toOption hd, rfl⟩
  have hlast : (System.start d (.start .persistent {} HostCall.execute) (some ["hi"])).follow o
      ([.session, .session, .frames, .driver, .driver] ++ later) = some last := by
    rw [follow_append, follow_announced d o rfl, Option.bind_some]
    exact hlater
  rw [eq_ok_of_toOption ho] at hr
  refine ⟨_, hstart, fun clock others last' hothers hcomplete => ?_⟩
  obtain ⟨-, hall⟩ := launch_confluent settings .empty HostCall.execute {} ["hi"] rfl rfl
    (fun _ => 0) hstart hlast hr clock
  obtain ⟨outcome', hresult, hreason', -, -, -, hserved'⟩ := hall others last' hothers hcomplete
  exact ⟨outcome', hresult, hreason'.trans hreason, hserved'.trans hserved⟩

end Launch

end ScriptLink
