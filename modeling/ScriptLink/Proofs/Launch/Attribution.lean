import ScriptLink.Proofs.Launch.Delivery

/-!
# ScriptLink.Proofs.Launch.Attribution — who is to blame when a launch fails

* `Ends`: the host hangs up its sending end only when the drive is over, and its receiving end only when
  the drive or the session is over, in the latter case after the last line.
* `ScriptStage.Safe`: the session does not fail for want of a host, now or later.
* `Attribution`: the drive ends well only when the session is safe, since the driver heard the
  acknowledgement or that the session hung up; so a session that found the channel closed lost its host to
  a failure of the drive.
* `launch_attributes` says what this makes of the result of a launch.
-/

namespace ScriptLink

open ScriptLink.Frame (tells)

namespace ScriptStage

/-- The session has nothing left to do with its channel, and did not find it closed. -/
def Safe : ScriptStage → Prop
  | .writing frames v => frames = [] ∧ v = .stop
  | .reading => False
  | .ended f => f ≠ some (.channel .closed)

/-- Why the session failed, if it did. -/
def fault? : ScriptStage → Option SessionFault
  | .ended f => f
  | _ => none

/-- An acknowledgement is the last that the session writes before it stops. -/
def Discreet : ScriptStage → Prop
  | .writing frames v => (∀ f ∈ frames, f.kind ≠ .shutdownAck) ∨
      ∃ reason, frames = [.shutdownAck reason] ∧ v = .stop
  | _ => True

theorem discreet_dispatch (now : UInt64) (f : Frame) (d : Dispatcher σ) :
    Discreet (.writing (d.dispatch now f).replies (d.dispatch now f).verdict) := by
  by_cases hk : f.kind = .shutdown
  · obtain ⟨reason, rfl⟩ := Dispatcher.eq_shutdown hk
    exact Or.inr ⟨_, rfl, rfl⟩
  · exact Or.inl fun g hg => Dispatcher.kind_ne_shutdownAck hk hg

theorem Discreet.write {f : Frame} {rest : List Frame} {v : Verdict}
    (h : Discreet (.writing (f :: rest) v)) : Discreet (.writing rest v) := by
  rcases h with h | ⟨reason, h, -⟩
  · exact Or.inl fun g hg => h g (List.mem_cons_of_mem _ hg)
  · obtain ⟨-, rfl⟩ := List.cons.inj h
    exact Or.inl nofun

/-- Once the acknowledgement is written, the session is safe. -/
theorem Discreet.safe {f : Frame} {rest : List Frame} {v : Verdict}
    (h : Discreet (.writing (f :: rest) v)) (hf : f.kind = .shutdownAck) :
    Safe (.writing rest v) := by
  rcases h with h | ⟨reason, h, hv⟩
  · exact absurd hf (h f List.mem_cons_self)
  · obtain ⟨-, hrest⟩ := List.cons.inj h
    exact ⟨hrest, hv⟩

end ScriptStage

namespace System

/-! ## Ends of the host -/

/-- When the host has hung up. -/
structure Ends (script : ScriptStage) (drive : DriveStage) (p : Pair) : Prop where
  sender : p.toScript.senderOpen = false → ∃ f, drive = .ended f
  receiver : p.toHost.receiverOpen = false →
    (∃ f, script = .ended f) ∧ p.toHost.items = [] ∨ ∃ f, drive = .ended f

theorem Ends.start : Ends (.writing [f] .proceed) .waiting .empty := ⟨nofun, nofun⟩

section

variable {o : Options} {s next : System σ} {frames : List Frame}

theorem Ends.turn (hhear : Hearing s.script s.drive s.pair s.events)
    (h : Ends s.script s.drive s.pair) (ht : Turn o s frames next) :
    Ends next.script next.drive next.pair := by
  obtain ⟨hsender, hreceiver⟩ := h
  -- while the session goes on, only the end of the drive makes the host deaf
  have hdeaf (hs : ∀ f, s.script ≠ .ended f) (e : s.pair.toHost.receiverOpen = false) :
      ∃ f, s.drive = .ended f := by
    rcases hreceiver e with ⟨⟨f, hf⟩, -⟩ | hdrive
    · exact absurd hf (hs f)
    · exact hdrive
  cases ht with
  | write hs | listen hs | take hs | stop hs =>
    exact ⟨hsender, fun e => Or.inr (hdeaf (by simp [hs]) e)⟩
  | failScript hs => exact ⟨hsender, fun e => Or.inr (hdeaf hs e)⟩
  | forward hi hopen => exact ⟨hsender, fun e => absurd (hopen.symm.trans e) Bool.noConfusion⟩
  | feed => exact ⟨hsender, hreceiver⟩
  | deafen hi he => exact ⟨hsender, fun _ => Or.inr (hhear.listener he)⟩
  | hangUp hi hs => exact ⟨hsender, fun _ => Or.inl ⟨hhear.sender hs, hi⟩⟩
  | finish | failDrive => exact ⟨fun _ => ⟨_, rfl⟩, fun _ => Or.inr ⟨_, rfl⟩⟩
  | handle hd | tick hd | await hd | send hd | drop hd =>
    have hgoing : ¬∃ f, s.drive = .ended f := by
      rintro ⟨f, hf⟩
      rw [hf] at hd
      cases hd
    exact ⟨fun e => absurd (hsender e) hgoing, fun e => (hreceiver e).imp_right (absurd · hgoing)⟩

end

/-! ## Attribution -/

/-- What is known of a launch in which either side may fail. -/
structure Attribution (s : System σ) : Prop where
  hearing : Hearing s.script s.drive s.pair s.events
  ends : Ends s.script s.drive s.pair
  discreet : s.script.Discreet
  arriving : ∀ line ∈ s.arriving, tells .shutdownAck line = true → s.script.Safe
  finished : s.drive.Finished → s.script.Safe
  /-- A session that found the channel closed lost its host to a failure of the drive. -/
  closed : s.script = .ended (some (.channel .closed)) → ∃ f, s.drive = .ended (some f)

theorem attribution_start (d : Dispatcher σ) (driver : Driver) (input : Option (List String)) :
    Attribution (.start d driver input) where
  hearing := .start
  ends := .start
  discreet := by
    refine Or.inl fun f hf => ?_
    rw [List.mem_singleton.mp hf]
    exact Frame.Kind.noConfusion
  arriving := nofun
  finished := nofun
  closed := nofun

section

variable {o : Options} {s next : System σ} {frames : List Frame}

/-- A session that is safe does not fail any more. -/
theorem not_breaks_of_safe (h : s.script.Safe) (hs : ∀ g, s.script ≠ .ended g) (f : SessionFault) :
    ¬Breaks o s f := by
  intro hb
  cases hscript : s.script with
  | ended g => exact hs g hscript
  | reading =>
    rw [hscript] at h
    exact h
  | writing frames v =>
    rw [hscript] at h
    obtain ⟨rfl, rfl⟩ := h
    cases hb with
    | fatal hs | deaf hs | abandoned hs | late hs =>
      rw [hscript] at hs
      cases hs

/-- Only a drive that failed leaves a session that is not safe without its host. -/
theorem Attribution.drive_of_breaks (h : Attribution s) (hb : Breaks o s (.channel .closed)) :
    ∃ f, s.drive = .ended (some f) := by
  have hover : ∃ f, s.drive = .ended f := by
    cases hb with
    | deaf hs hclosed =>
      rcases h.ends.receiver hclosed with ⟨⟨f, hf⟩, -⟩ | hover
      · rw [hf] at hs
        cases hs
      · exact hover
    | abandoned hs hi hclosed => exact h.ends.sender hclosed
  obtain ⟨f, hf⟩ := hover
  cases f with
  | some f => exact ⟨f, hf⟩
  | none =>
    have hsafe : s.script.Safe := h.finished (by rw [hf]; rfl)
    refine absurd hb (not_breaks_of_safe hsafe ?_ _)
    intro g hg
    cases hb with
    | deaf hs | abandoned hs =>
      rw [hg] at hs
      cases hs

/-- A drive that comes to a good end heard that the session is through. -/
theorem Attribution.handle (h : Attribution s) {e : HostEvent} {rest : List HostEvent}
    (hd : s.drive = .waiting) (hi : s.events.items = e :: rest)
    (hdone : (s.driver.handle e).sequel = .done) : s.script.Safe := by
  rcases Driver.handle_done hdone with rfl | ⟨line, reason, rfl, hline, -⟩
  · have hmem : HostEvent.scriptClosed ∈ s.events.items := by
      rw [hi]
      exact List.mem_cons_self
    obtain ⟨⟨f, hf⟩, -, -⟩ := h.hearing.closed hmem
    rw [hf]
    intro hclosed
    rw [hclosed] at hf
    obtain ⟨g, hg⟩ := h.closed hf
    rw [hd] at hg
    cases hg
  · refine h.arriving line ?_ ?_
    · rw [arriving_cons hi]
      exact List.mem_append_left _ (List.mem_singleton_self line)
    · rw [Frame.tells_iff, hline]
      rfl

/-- Lines that are on their way were so before, or were just written. -/
theorem Turn.mem_arriving (ht : Turn o s frames next) {line : String} (h : line ∈ next.arriving) :
    line ∈ s.arriving ++ frames.map Frame.encode := by
  cases ht with
  | write hs hopen =>
    have h : line ∈ s.events.items.filterMap HostEvent.line? ++ (s.pair.toHost.items ++ _) := h
    rwa [← List.append_assoc] at h
  | @forward text rest hi hopen he =>
    have h : line ∈ (s.events.items ++ [HostEvent.frame text]).filterMap HostEvent.line? ++ rest := h
    rw [List.filterMap_append, List.append_assoc] at h
    unfold arriving
    rw [hi, List.map_nil, List.append_nil]
    exact h
  | @deafen text rest hi he =>
    have h : line ∈ s.events.items.filterMap HostEvent.line? ++ rest := h
    unfold arriving
    rw [hi, List.map_nil, List.append_nil, List.append_cons]
    simp only [List.mem_append] at h ⊢
    exact h.imp_left Or.inl
  | @hangUp more hi hs hm =>
    have hquiet : ∀ e ∈ more, e.line? = none := by
      rcases hm with rfl | rfl <;> simp [HostEvent.line?]
    have h : line ∈ (s.events.items ++ more).filterMap HostEvent.line? ++ s.pair.toHost.items := h
    rw [List.filterMap_append, filterMap_quiet hquiet, List.append_nil] at h
    exact List.mem_append_left _ h
  | @feed input more hi hm =>
    have hquiet : ∀ e ∈ more, e.line? = none := by
      intro e he
      rcases hm e he with ⟨text, rfl⟩ | rfl <;> rfl
    have h : line ∈ (s.events.items ++ more).filterMap HostEvent.line? ++ s.pair.toHost.items := h
    rw [List.filterMap_append, filterMap_quiet hquiet, List.append_nil] at h
    exact List.mem_append_left _ h
  | handle hd hi =>
    rw [arriving_cons hi]
    exact List.mem_append_left _ (List.mem_append_right _ h)
  | _ => exact List.mem_append_left _ h

theorem Attribution.turn (h : Attribution s) (ht : Turn o s frames next) : Attribution next := by
  have hhear := h.hearing.turn ht
  have hends := h.ends.turn h.hearing ht
  have harrived := @Turn.mem_arriving _ o s next frames ht
  have ⟨_, _, hdiscreet, harriving, hfinished, hclosed⟩ := h
  -- what was on its way is on it still, and what the session says meanwhile is nothing
  have hquiet (hq : frames = []) (hs : s.script.Safe → next.script.Safe) :
      ∀ line ∈ next.arriving, tells .shutdownAck line = true → next.script.Safe := by
    intro line hl htells
    have hl := harrived hl
    rw [hq, List.map_nil, List.append_nil] at hl
    exact hs (harriving line hl htells)
  have hdriving (hd : ∀ f, s.drive ≠ .ended f) : s.script ≠ .ended (some (.channel .closed)) := by
    intro hc
    obtain ⟨f, hf⟩ := hclosed hc
    exact hd _ hf
  cases ht with
  | @write f rest v hs hopen =>
    rw [hs] at hdiscreet
    have hgoing : ¬s.script.Safe := by
      rw [hs]
      exact fun h => List.cons_ne_nil f rest h.1
    refine ⟨hhear, hends, hdiscreet.write, ?_, fun hd => absurd (hfinished hd) hgoing, nofun⟩
    intro line hl htells
    rcases List.mem_append.mp (harrived hl) with hl | hl
    · exact absurd (harriving line hl htells) hgoing
    · rw [List.mem_singleton.mp hl] at htells
      exact hdiscreet.safe (Frame.kind_of_tells_encode (by decide) htells)
  | listen hs hv =>
    have hgoing : ¬s.script.Safe := by
      rw [hs]
      exact fun h => hv h.2
    exact ⟨hhear, hends, trivial, hquiet rfl (absurd · hgoing),
      fun hd => absurd (hfinished hd) hgoing, nofun⟩
  | take hs =>
    have hgoing : ¬s.script.Safe := by
      rw [hs]
      exact id
    exact ⟨hhear, hends, ScriptStage.discreet_dispatch _ _ _, hquiet rfl (absurd · hgoing),
      fun hd => absurd (hfinished hd) hgoing, nofun⟩
  | stop => exact ⟨hhear, hends, trivial, hquiet rfl fun _ => nofun, fun _ => nofun, nofun⟩
  | @failScript f hs hf =>
    have hgoing : ¬s.script.Safe := fun h => not_breaks_of_safe h hs f hf
    refine ⟨hhear, hends, trivial, hquiet rfl (absurd · hgoing),
      fun hd => absurd (hfinished hd) hgoing, fun hc => ?_⟩
    cases hc
    exact h.drive_of_breaks hf
  | forward | deafen | hangUp | feed =>
    exact ⟨hhear, hends, hdiscreet, hquiet rfl id, hfinished, hclosed⟩
  | handle hd hi =>
    exact ⟨hhear, hends, hdiscreet, hquiet rfl id, h.handle hd hi,
      fun hc => absurd hc (hdriving (by simp [hd]))⟩
  | tick hd =>
    refine ⟨hhear, hends, hdiscreet, hquiet rfl id, fun hf => ?_,
      fun hc => absurd hc (hdriving (by simp [hd]))⟩
    exact absurd (s.driver.steady_tick.sequel.symm.trans hf) Sequel.noConfusion
  | await hd =>
    exact ⟨hhear, hends, hdiscreet, hquiet rfl id, nofun,
      fun hc => absurd hc (hdriving (by simp [hd]))⟩
  | finish hd =>
    exact ⟨hhear, hends, hdiscreet, hquiet rfl id, fun _ => hfinished (by rw [hd]; rfl),
      fun hc => absurd hc (hdriving (by simp [hd]))⟩
  | failDrive => exact ⟨hhear, hends, hdiscreet, hquiet rfl id, nofun, fun _ => ⟨_, rfl⟩⟩
  | send hd | drop hd =>
    exact ⟨hhear, hends, hdiscreet, hquiet rfl id, fun hf => hfinished (by rw [hd]; exact hf),
      fun hc => absurd hc (hdriving (by simp [hd]))⟩

/-- Attribution holds in whatever way the threads interleave. -/
theorem Attribution.follow (h : Attribution s) {moves : List Move} {last : System σ}
    (hf : s.follow o moves = some last) : Attribution last := by
  induction moves generalizing s with
  | nil =>
    cases hf
    exact h
  | cons m rest ih =>
    obtain ⟨next, hm, hf⟩ := Option.bind_eq_some_iff.mp hf
    exact ih (h.turn (turn_of_step hm)) hf

end

/-- What a launch comes to says who is to blame, if a session that found the channel closed is not. -/
theorem settle_cases (s : System σ) (script : Option SessionFault) (drive : Option DriveFault)
    (h : script = some (.channel .closed) → ∃ f, drive = some f) :
    s.settle script drive ≠ .error (.session (.channel .closed)) ∧
    (script = some (.channel .closed) → ∃ f, drive = some f ∧ s.settle script drive = .error (.drive f)) ∧
    (∀ f, script = some f → f ≠ .channel .closed → s.settle script drive = .error (.session f)) ∧
    ((∃ outcome, s.settle script drive = .ok outcome) ↔ script = none ∧ drive = none) := by
  unfold settle
  cases script with
  | none => cases drive <;> simp
  | some f =>
    by_cases hf : f = .channel .closed
    · obtain ⟨g, rfl⟩ := h (congrArg some hf)
      subst hf
      simp
    · split <;> simp_all

end System

namespace Launch

open ScriptLink.System

/-- A session fails before it begins for its target or its modules only. -/
theorem early_of_start {settings : HostSettings} {parts : HostParts σ} {f : SessionFault}
    (h : Launch.start settings parts = .error f) : f.early = true := by
  unfold Launch.start at h
  dsimp only at h
  split at h
  · rename_i g hg
    cases h
    unfold Dispatcher.bootstrap at hg
    split at hg
    · cases hg
      rfl
    · dsimp only at hg
      split at hg
      · cases hg
        rfl
      · split at hg
        · cases hg
          rfl
        · cases hg
  · cases h

/-- **Who is to blame**: whatever modules there are, whatever the mode, the options and the external input,
and in whatever way the threads interleave, a session that ends because it found the channel closed lost
its host to a failure of the drive. So a launch never fails because of a closed channel in the session: in
that case its failure is that of the drive, any other failure of the session is that of the launch,
whatever the drive comes to, and the launch ends well just if both sides do. -/
theorem launch_attributes (settings : HostSettings) (parts : HostParts σ) (clock : Nat → UInt64) :
    (∀ f, Launch.start settings parts = .error f → f ≠ .channel .closed) ∧
    ∀ start moves last, Launch.start settings parts = .ok start →
      start.follow (Launch.options settings.config clock) moves = some last →
      (last.script = .ended (some (.channel .closed)) → ∃ f, last.drive = .ended (some f)) ∧
      ∀ script drive, last.script = .ended script → last.drive = .ended drive →
        ∃ r, last.result? = some r ∧ r ≠ .error (.session (.channel .closed)) ∧
          (script = some (.channel .closed) → ∃ f, drive = some f ∧ r = .error (.drive f)) ∧
          (∀ f, script = some f → f ≠ .channel .closed → r = .error (.session f)) ∧
          ((∃ outcome, r = .ok outcome) ↔ script = none ∧ drive = none) := by
  refine ⟨?_, ?_⟩
  · rintro f hf rfl
    cases early_of_start hf
  · intro start moves last hstart hlast
    have hbegin : Attribution start := by
      obtain ⟨d, -, rfl⟩ := start_eq_ok.mp hstart
      exact attribution_start _ _ _
    have hclosed := (hbegin.follow hlast).closed
    refine ⟨hclosed, fun script drive hs hd => ⟨last.settle script drive, ?_, ?_⟩⟩
    · unfold result?
      rw [hs, hd]
    · refine settle_cases last script drive fun hc => ?_
      obtain ⟨f, hf⟩ := hclosed (by rw [hs, hc])
      rw [hd] at hf
      exact ⟨f, DriveStage.ended.inj hf⟩

/-- The handler of a message fails, the driver hears of it and gives up, and the session then finds the
channel closed: the launch fails as the drive did. -/
theorem launch_attributes_error :
    let failing : ScriptModule Unit :=
      { exports := { message := some (Handler.ofRequest fun _ => .fail (.failed "no")) } }
    let settings : HostSettings :=
      ⟨{ Config.empty with mode := some .persistent }, ⟨some "a", [], [], []⟩⟩
    let parts : HostParts Unit := ⟨.ofFind fun _ => .ok failing, (), HostCall.execute, {}, ["hi"]⟩
    let o := Launch.options settings.config fun _ => 0
    let later : List Move := [.input, .driver, .driver, .driver, .session, .session, .session,
      .frames, .driver, .driver, .session]
    let moves : List Move := [.session, .session, .frames, .driver, .driver] ++ later
    ∃ start last f, Launch.start settings parts = .ok start ∧ start.follow o moves = some last ∧
      last.script = .ended (some (.channel .closed)) ∧ last.result? = some (.error (.drive f)) := by
  intro failing settings parts o later moves
  have hrun : ((Dispatcher.bootstrap settings.seed (⟨parts.importer, []⟩ : Loader Unit)
      ()).1.toOption.bind fun d =>
        ((announced d (.start .persistent {} HostCall.execute) (some ["hi"])).follow o later).bind
          fun last => last.script.fault?) = some (.channel .closed) := by
    decide +kernel
  obtain ⟨d, hd, hrun⟩ := Option.bind_eq_some_iff.mp hrun
  obtain ⟨last, hlater, hrun⟩ := Option.bind_eq_some_iff.mp hrun
  have hstart : Launch.start settings parts =
      .ok (.start d (.start .persistent {} HostCall.execute) (some ["hi"])) :=
    start_eq_ok.mpr ⟨d, eq_ok_of_toOption hd, rfl⟩
  have hlast : (System.start d (.start .persistent {} HostCall.execute) (some ["hi"])).follow o
      moves = some last := by
    rw [follow_append, follow_announced d o rfl, Option.bind_some]
    exact hlater
  have hscript : last.script = .ended (some (.channel .closed)) := by
    unfold ScriptStage.fault? at hrun
    split at hrun
    · rename_i f hf
      rw [hf, hrun]
    · cases hrun
  obtain ⟨hdrive, hresult⟩ := (launch_attributes settings parts fun _ => 0).2 _ _ _ hstart hlast
  obtain ⟨f, hf⟩ := hdrive hscript
  obtain ⟨r, hr, -, hclosed, -⟩ := hresult _ _ hscript hf
  obtain ⟨g, -, rfl⟩ := hclosed rfl
  exact ⟨_, last, g, hstart, hlast, hscript, hr⟩

end Launch

end ScriptLink
