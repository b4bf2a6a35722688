import ScriptLink.Proofs.Host.Persistent
import ScriptLink.Proofs.Launch.Pacing

/-!
# ScriptLink.Proofs.Launch.Intake — external input and the shutdown after it

* `Intake`: the news that the external input is closed comes after its last line, and the driver hears of
  it unless the drive is over.
* `Asking`: in the mode `persistent` the driver asked for a shutdown just if one is on its way to the
  session or the session stops; a line that must arrive is sent before that.

Each of them outlives every turn.
-/

namespace ScriptLink

open ScriptLink.Frame (tells)

namespace System

/-! ## Input -/

/-- Where the external input and the news of its end are. -/
structure Intake (s : System σ) : Prop where
  order : s.events.items.Pairwise fun a b => a = .externalClosed → b.external? = none
  exhausted : .externalClosed ∈ s.events.items ∨ s.driver.inputClosed = true → s.input = none
  through : s.driver.inputClosed = true → ∀ e ∈ s.events.items, e.external? = none
  told : s.input = none →
    .externalClosed ∈ s.events.items ∨ s.driver.inputClosed = true ∨ ∃ f, s.drive = .ended f

theorem intake_start (d : Dispatcher σ) {driver : Driver} (hd : driver.inputClosed = false)
    (lines : List String) : Intake (.start d driver (some lines)) := by
  refine ⟨.nil, ?_, nofun, nofun⟩
  rintro (h | h)
  · cases h
  · rw [show driver.inputClosed = true from h] at hd
    cases hd

section

variable {o : Options} {s next : System σ} {frames : List Frame}

/-- Events of the session, and the driver that goes on, leave the intake as it is. -/
theorem Intake.reroute (h : Intake s) {more : List HostEvent}
    (hevents : next.events.items = s.events.items ++ more) (hinput : next.input = s.input)
    (hclosed : next.driver.inputClosed = s.driver.inputClosed)
    (hdrive : ∀ f, s.drive = .ended f → ∃ g, next.drive = .ended g)
    (hm : ∀ e ∈ more, e.external? = none ∧ e ≠ .externalClosed) : Intake next := by
  obtain ⟨horder, hexhausted, hthrough, htold⟩ := h
  have hmem : .externalClosed ∈ next.events.items ↔ .externalClosed ∈ s.events.items := by
    rw [hevents, List.mem_append]
    exact or_iff_left fun e => (hm _ e).2 rfl
  refine ⟨?_, ?_, ?_, ?_⟩
  · rw [hevents]
    refine List.pairwise_append.mpr ⟨horder, ?_, fun a _ b hb _ => (hm b hb).1⟩
    exact List.pairwise_of_forall_mem_list fun a ha b hb _ => (hm b hb).1
  · rw [hmem, hinput, hclosed]
    exact hexhausted
  · rw [hevents, hclosed]
    exact fun hc => List.forall_mem_append.mpr ⟨hthrough hc, fun e he => (hm e he).1⟩
  · rw [hmem, hinput, hclosed]
    exact fun hi => (htold hi).imp_right (Or.imp_right fun ⟨f, hf⟩ => hdrive f hf)

/-- The input forwarder passes on what it has. -/
theorem Intake.feed (h : Intake s) (hhear : Hearing s.script s.drive s.pair s.events)
    {input : Option (List String)} {more : List HostEvent} (hf : Feeds s input more) :
    Intake { s with input := input, events.items := s.events.items ++ more } := by
  obtain ⟨horder, hexhausted, hthrough, htold⟩ := h
  cases hf with
  | @pass line rest hi he =>
    -- the input is not closed as long as there is a line
    have hnot : ¬(.externalClosed ∈ s.events.items ∨ s.driver.inputClosed = true) := by
      intro hc
      rw [hexhausted hc] at hi
      cases hi
    refine ⟨List.pairwise_append.mpr ⟨horder, List.pairwise_singleton _ _, ?_⟩, ?_, ?_, nofun⟩
    · intro a ha b hb hc
      exact absurd (Or.inl (hc ▸ ha)) hnot
    · rintro (hc | hc)
      · rcases List.mem_append.mp hc with hc | hc
        · exact absurd (Or.inl hc) hnot
        · cases List.mem_singleton.mp hc
      · exact absurd (Or.inr hc) hnot
    · exact fun hc => absurd (Or.inr hc) hnot
  | close hi he =>
    refine ⟨List.pairwise_append.mpr ⟨horder, List.pairwise_singleton _ _, ?_⟩, fun _ => rfl,
      fun hc => List.forall_mem_append.mpr ⟨hthrough hc, ?_⟩, fun _ => Or.inl ?_⟩
    · intro a ha b hb hc
      rw [List.mem_singleton.mp hb]
      rfl
    · exact List.forall_mem_singleton.mpr rfl
    · exact List.mem_append_right _ (List.mem_singleton_self _)
  | leave he =>
    obtain ⟨f, hf⟩ := hhear.listener he
    rw [List.append_nil]
    exact ⟨horder, fun _ => rfl, hthrough, fun _ => Or.inr (Or.inr ⟨f, hf⟩)⟩

theorem Intake.handle (h : Intake s) {e : HostEvent} {rest : List HostEvent}
    (hd : s.drive = .waiting) (hi : s.events.items = e :: rest) :
    Intake ({ s with events.items := rest }.react (s.driver.handle e)) := by
  obtain ⟨horder, hexhausted, hthrough, htold⟩ := h
  have hclosed := (s.driver.forwards_handle e).inputClosed
  rw [hi] at horder hexhausted hthrough htold
  obtain ⟨hfirst, horder⟩ := List.pairwise_cons.mp horder
  have hnext : (s.driver.handle e).next.inputClosed = true ↔
      s.driver.inputClosed = true ∨ e = .externalClosed := by
    rw [hclosed, Bool.or_eq_true, decide_eq_true_iff]
  refine ⟨horder, fun hc => hexhausted ?_, fun hc => ?_, fun hinput => ?_⟩
  · rcases hc with hc | hc
    · exact Or.inl (List.mem_cons_of_mem _ hc)
    · rcases hnext.mp hc with hc | rfl
      · exact Or.inr hc
      · exact Or.inl List.mem_cons_self
  · rcases hnext.mp hc with hc | rfl
    · exact fun e he => hthrough hc e (List.mem_cons_of_mem _ he)
    · exact fun e he => hfirst e he rfl
  · rcases htold hinput with hc | hc | ⟨f, hf⟩
    · rcases List.mem_cons.mp hc with hc | hc
      · exact Or.inr (Or.inl (hnext.mpr (Or.inr hc.symm)))
      · exact Or.inl hc
    · exact Or.inr (Or.inl (hnext.mpr (Or.inl hc)))
    · rw [hd] at hf
      cases hf

theorem Intake.turn (hhear : Hearing s.script s.drive s.pair s.events) (h : Intake s)
    (ht : Turn o s frames next) : Intake next := by
  -- what leaves the events, the input and the driver as they are
  have hsame (hevents : next.events.items = s.events.items) (hinput : next.input = s.input)
      (hdriver : next.driver.inputClosed = s.driver.inputClosed)
      (hdrive : ∀ f, s.drive = .ended f → ∃ g, next.drive = .ended g) : Intake next :=
    h.reroute (hevents.trans (List.append_nil _).symm) hinput hdriver hdrive nofun
  cases ht with
  | forward =>
    refine h.reroute rfl rfl rfl (fun f hf => ⟨f, hf⟩) ?_
    exact List.forall_mem_singleton.mpr ⟨rfl, HostEvent.noConfusion⟩
  | hangUp hi hs hm =>
    refine h.reroute rfl rfl rfl (fun f hf => ⟨f, hf⟩) ?_
    rcases hm with rfl | rfl
    · exact List.forall_mem_singleton.mpr ⟨rfl, HostEvent.noConfusion⟩
    · exact nofun
  | feed hi hm hf => exact h.feed hhear hf
  | handle hd hi => exact h.handle hd hi
  | tick hd => exact hsame rfl rfl s.driver.tick_settings.1 fun f hf => absurd (hd.symm.trans hf) nofun
  | await hd | send hd | drop hd => exact hsame rfl rfl rfl fun f hf => absurd (hd.symm.trans hf) nofun
  | finish | failDrive => exact hsame rfl rfl rfl fun _ _ => ⟨_, rfl⟩
  | _ => exact hsame rfl rfl rfl fun f hf => ⟨f, hf⟩

/-! ## Shutdowns in the mode `persistent` -/

/-- What is known of the shutdown that a driver asks for without pings. -/
structure Asking (s : System σ) : Prop where
  mode : s.driver.mode = .persistent
  settled : s.driver.Settled
  asked : s.driver.shutdown = true ↔
    (∃ line ∈ s.departing, tells .shutdown line = true) ∨ s.script.Stops
  /-- What must arrive is sent before any shutdown. -/
  required : ∀ lines q, s.drive = .sending lines q →
    ∀ l ∈ lines, l.required = true → s.driver.shutdown = false

theorem asking_start (d : Dispatcher σ) (options : DriveOptions) (executor : HostCall.Executor)
    (input : Option (List String)) :
    Asking (.start d (.start .persistent options executor) input) := by
  refine ⟨rfl, nofun, ?_, nofun⟩
  simp [Driver.start, System.start, departing, DriveStage.unsent, ScriptStage.Stops, Pair.empty,
    Queue.empty]

/-- Nobody is asked by way of another stage or other queues. -/
theorem Asking.restage (h : Asking s) (hdriver : next.driver = s.driver)
    (hdrive : next.drive = s.drive ∨ next.drive.unsent = [])
    (hasked : (∃ line ∈ s.departing, tells .shutdown line = true) ∨ s.script.Stops ↔
      (∃ line ∈ next.departing, tells .shutdown line = true) ∨ next.script.Stops) :
    Asking next := by
  obtain ⟨hmode, hsettled, hshutdown, hrequired⟩ := h
  refine ⟨?_, ?_, ?_, ?_⟩ <;> rw [hdriver]
  · exact hmode
  · exact hsettled
  · exact hshutdown.trans hasked
  · intro lines q hq l hl
    rcases hdrive with hsame | hnone
    · exact hrequired lines q (hsame ▸ hq) l hl
    · rw [hq] at hnone
      rw [List.map_eq_nil_iff.mp hnone] at hl
      cases hl

/-- A session that hung up without a failure stopped. -/
theorem stops_of_receiverClosed (hhear : Hearing s.script s.drive s.pair s.events) (hs : ¬s.Doomed)
    (hclosed : s.pair.toScript.receiverOpen = false) : s.script.Stops := by
  obtain ⟨f, hf⟩ := hhear.receiver hclosed
  cases f with
  | none =>
    rw [hf]
    rfl
  | some f => exact absurd (Or.inl ⟨f, hf⟩) hs

theorem departing_waiting (h : s.drive.unsent = []) : s.departing = s.pair.toScript.items := by
  unfold departing
  rw [h, List.append_nil]

theorem Asking.turn (hhear : Hearing s.script s.drive s.pair s.events) (h : Asking s)
    (ht : Turn o s frames next) (hnext : ¬next.Doomed) : Asking next := by
  have hs : ¬s.Doomed := fun hd => hnext (hd.turn ht)
  cases ht with
  | write hs => exact h.restage rfl (.inl rfl) (by rw [hs]; rfl)
  | listen hs hv =>
    refine h.restage rfl (.inl rfl) (or_congr_right ?_)
    rw [hs]
    exact iff_of_false hv id
  | stop hs =>
    refine h.restage rfl (.inl rfl) (or_congr_right ?_)
    rw [hs]
    exact iff_of_true rfl rfl
  | @take line rest hs hi =>
    refine h.restage rfl (.inl rfl) ?_
    have hdep : s.departing = line :: (rest ++ s.drive.unsent) := by
      unfold departing
      rw [hi, List.cons_append]
    have hstops : tells .shutdown line = true ↔
        (s.dispatcher.dispatch (o.clock s.framesIn) (Frame.decode line)).verdict = .stop := by
      rw [Frame.tells_iff, Dispatcher.verdict_stop_iff]
    have hreading : s.script.Stops ↔ False := by
      rw [hs]
      exact Iff.rfl
    rw [hdep, hreading, or_false, List.exists_mem_cons_iff, hstops, or_comm]
    rfl
  | failScript => exact absurd (Or.inl ⟨_, rfl⟩) hnext
  | @handle e rest hd hi =>
    obtain ⟨hmode, -, hsettled, hshutdown, hrequired, -⟩ := s.driver.forwards_handle e
    refine ⟨hmode.trans h.mode, hsettled h.settled, ?_, fun lines q hq => ?_⟩
    · have hdep : s.departing = s.pair.toScript.items := departing_waiting (by rw [hd]; rfl)
      have hasked := h.asked
      rw [hdep] at hasked
      show (s.driver.handle e).next.shutdown = true ↔
        (∃ line ∈ s.pair.toScript.items ++ (s.driver.handle e).sends.map Outgoing.line,
          tells .shutdown line = true) ∨ s.script.Stops
      rw [hshutdown, Bool.or_eq_true, hasked, List.any_eq_true]
      simp only [List.mem_append, or_and_right, exists_or, List.mem_map,
        exists_exists_and_eq_and]
      exact or_right_comm
    · cases hq
      exact hrequired
  | tick hd ht => exact absurd ht (Driver.not_ticking h.mode)
  | await hd | finish hd =>
    have hdep : s.departing = s.pair.toScript.items ++ [] := by
      unfold departing
      rw [hd]
      rfl
    exact h.restage rfl (.inr rfl) (by rw [hdep]; exact Iff.rfl)
  | failDrive => exact absurd (Or.inr (Or.inl ⟨_, rfl⟩)) hnext
  | @send l rest q hd =>
    obtain ⟨hmode, hsettled, hshutdown, hrequired⟩ := h
    refine ⟨hmode, hsettled, ?_, fun lines r hr => ?_⟩
    · have hdep : s.departing = s.pair.toScript.items ++ [l.line] ++ rest.map Outgoing.line := by
        unfold departing
        rw [hd, List.append_assoc]
        rfl
      rw [hdep] at hshutdown
      exact hshutdown
    · cases hr
      exact fun k hk => hrequired _ _ hd k (List.mem_cons_of_mem _ hk)
  | @drop l rest q hd hclosed hl =>
    obtain ⟨hmode, hsettled, hshutdown, hrequired⟩ := h
    have hstops := stops_of_receiverClosed hhear hs hclosed
    refine ⟨hmode, hsettled, iff_of_true (hshutdown.mpr (Or.inr hstops)) (Or.inr hstops), ?_⟩
    intro lines r hr
    cases hr
    exact fun k hk => hrequired _ _ hd k (List.mem_cons_of_mem _ hk)
  | _ => exact h.restage rfl (.inl rfl) Iff.rfl

end

end System

end ScriptLink
