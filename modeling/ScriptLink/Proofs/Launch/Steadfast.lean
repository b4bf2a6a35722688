import ScriptLink.Proofs.Launch.Attribution
import ScriptLink.Proofs.Launch.Foresight

/-!
# ScriptLink.Proofs.Launch.Steadfast — launches in which neither side fails

* `Steadfast` puts together what every turn keeps of a launch in the mode `persistent` whose transcript
  is foreseen.
* `Transcript.Clean`: the session stops and no driver has a reason to give up. A launch that ends well has
  a clean transcript (`Steadfast.clean`).
* `Steadfast.not_doomed_of_clean`: where the transcript is clean, neither side fails, whatever move comes
  next.
* `Steadfast.over_of_stuck`: threads that cannot go on are through.
-/

namespace ScriptLink

open ScriptLink.Frame (tells alarming remarks)

namespace Frame

theorem mem_remarks {k : Kind} {frames : List Frame} :
    k ∈ remarks frames ↔ k.matters = true ∧ ∃ f ∈ frames, (decode f.encode).kind = k := by
  unfold remarks
  rw [List.mem_filter, List.mem_map, and_comm]

/-- A driver gives up at a line of the frames just if it remarks a failure. -/
theorem alarming_iff_remarks {frames : List Frame} :
    (∃ line ∈ frames.map encode, alarming line = true) ↔
      .error ∈ remarks frames ∨ .loadError ∈ remarks frames := by
  have hk {k : Kind} (h : k.matters = true) :
      k ∈ remarks frames ↔ ∃ f ∈ frames, tells k f.encode = true := by
    simp only [mem_remarks, h, true_and, tells_iff]
  rw [hk rfl, hk rfl, ← exists_or]
  simp only [List.mem_map, exists_exists_and_eq_and]
  refine exists_congr fun f => ?_
  rw [← and_or_left, alarming, Bool.or_eq_true]

end Frame

/-- A session stops without any reason for a driver to give up. -/
structure Transcript.Clean (t : Transcript σ) : Prop where
  ending : t.ending = some .stopped
  error : .error ∉ remarks t.written
  loadError : .loadError ∉ remarks t.written

namespace System

/-! ## Steadfast launches -/

/-- What holds of a launch in the mode `persistent` that wrote the frames `sent`. -/
structure Steadfast (t : Transcript σ) (sent : List Frame) (s : System σ) : Prop where
  speech : Speech sent s.script s.dispatcher
  attribution : Attribution s
  delivery : Delivery sent s
  intake : Intake s
  asking : Asking s
  foreseen : Foreseen t sent s
  announced : ∃ f ∈ sent ++ s.script.unwritten, tells .ready f.encode = true

section

variable {o : Options} {t : Transcript σ} {sent frames : List Frame} {s next : System σ}

/-- What is about to be written is written next, unless the session fails. -/
theorem Turn.mem_unwritten (ht : Turn o s frames next) (hnext : ¬next.Doomed) {f : Frame}
    (hf : f ∈ s.script.unwritten) : f ∈ frames ++ next.script.unwritten := by
  cases ht with
  | write hs | listen hs | stop hs | take hs =>
    rw [hs] at hf
    first
      | exact hf
      | cases hf
  | failScript => exact absurd (Or.inl ⟨_, rfl⟩) hnext
  | _ => exact hf

theorem Steadfast.turn (h : Steadfast t sent s) (ht : Turn o s frames next)
    (hnext : ¬next.Doomed) : Steadfast t (sent ++ frames) next where
  speech := h.speech.turn ht
  attribution := h.attribution.turn ht
  delivery := h.delivery.turn h.speech h.attribution.hearing ht hnext
  intake := h.intake.turn h.attribution.hearing ht
  asking := h.asking.turn h.attribution.hearing ht hnext
  foreseen := h.foreseen.turn h.attribution.hearing h.delivery h.intake h.asking ht hnext
  announced := by
    obtain ⟨f, hf, hready⟩ := h.announced
    refine ⟨f, ?_, hready⟩
    rw [List.append_assoc]
    rcases List.mem_append.mp hf with hf | hf
    · exact List.mem_append_left _ hf
    · exact List.mem_append_right _ (ht.mem_unwritten hnext hf)

theorem steadfast_start {d : Dispatcher σ} (hd : d.Tame) (options : DriveOptions)
    (executor : HostCall.Executor) (lines : List String) :
    let s := System.start d (.start .persistent options executor) (some lines)
    Steadfast (s.script.outlook d s.agenda) [] s where
  speech := .ready hd.careful
  attribution := attribution_start _ _ _
  delivery := ⟨fun _ => ⟨[], rfl, ⟨rfl, rfl, nofun, nofun⟩, nofun⟩, nofun⟩
  intake := intake_start d rfl lines
  asking := asking_start d options executor _
  foreseen := ⟨hd, .refl _⟩
  announced := by
    refine ⟨d.ready, List.mem_singleton_self _, Frame.tells_iff.mpr ?_⟩
    refine Frame.kind_decode_of_portable Frame.Kind.noConfusion ?_
    simp [Frame.Portable, Dispatcher.ready, Frame.body]

/-! ## Clean transcripts -/

/-- A driver remarks of a clean transcript no failure. -/
theorem Steadfast.not_alarming (h : Steadfast t sent s) (ht : t.Clean) {line : String}
    (hl : line ∈ sent.map Frame.encode) : alarming line = false := by
  have hheard : remarks (sent ++ (s.script.outlook s.dispatcher s.agenda).written) =
      remarks t.written := h.foreseen.outlook.heard
  have hsent {k : Frame.Kind} (hk : k ∈ remarks sent) : k ∈ remarks t.written := by
    rw [← hheard, Frame.remarks_append]
    exact List.mem_append_left _ hk
  rw [Bool.eq_false_iff]
  intro halarm
  rcases Frame.alarming_iff_remarks.mp ⟨line, hl, halarm⟩ with hk | hk
  · exact ht.error (hsent hk)
  · exact ht.loadError (hsent hk)

/-- What a launch that ended well wrote is what was foreseen. -/
theorem Steadfast.resembles (h : Steadfast t sent s) (hs : s.script = .ended none) :
    Transcript.Resembles ⟨sent, 0, s.dispatcher, some .stopped⟩ t := by
  have houtlook := h.foreseen.outlook
  rw [hs] at houtlook
  have hnil : (ScriptStage.outlook s.dispatcher s.agenda (.ended none)).preceded sent =
      ⟨sent ++ [], 0, s.dispatcher, some .stopped⟩ := rfl
  rwa [hnil, List.append_nil] at houtlook

/-- A launch that ended well had a clean transcript. -/
theorem Steadfast.clean (h : Steadfast t sent s) (hs : s.script = .ended none)
    (hd : s.drive = .ended none) : t.Clean := by
  obtain ⟨hheard, -, hending⟩ := h.resembles hs
  obtain ⟨-, -, hcount, -⟩ := h.delivery.finished (by rw [hd]; rfl)
  have hnone : ¬(.error ∈ remarks sent ∨ .loadError ∈ remarks sent) := by
    rw [← Frame.alarming_iff_remarks]
    rintro ⟨line, hl, halarm⟩
    rw [hcount.quiet line hl] at halarm
    cases halarm
  rw [show remarks sent = remarks t.written from hheard, not_or] at hnone
  exact ⟨hending.symm, hnone.1, hnone.2⟩

/-- Where the transcript is clean, the session does not fail. -/
theorem Steadfast.not_breaks (h : Steadfast t sent s) (ho : o.limit = none) (ht : t.Clean)
    (hs : ¬s.Doomed) (f : SessionFault) : ¬Breaks o s f := by
  intro hb
  cases hb with
  | @fatal why hscript =>
    have hending := h.foreseen.outlook.ending
    rw [hscript, ht.ending] at hending
    cases hending
  | deaf hscript hclosed =>
    obtain ⟨f, hf⟩ := h.attribution.drive_of_breaks (o := o) (.deaf hscript hclosed)
    exact hs (Or.inr (Or.inl ⟨f, hf⟩))
  | abandoned hscript hi hclosed =>
    obtain ⟨f, hf⟩ := h.attribution.drive_of_breaks (o := o) (.abandoned hscript hi hclosed)
    exact hs (Or.inr (Or.inl ⟨f, hf⟩))
  | late hscript hl =>
    rw [ho] at hl
    cases hl

/-- What a drive has to send arrives. -/
theorem Steadfast.not_quits (h : Steadfast t sent s) (hs : ¬s.Doomed) (f : DriveFault) :
    ¬Quits s f := by
  rintro (hd | ⟨hd, hl, hclosed⟩)
  · exact hs (Or.inr (Or.inr ⟨_, _, hd⟩))
  · have hstops := stops_of_receiverClosed h.attribution.hearing hs hclosed
    have hshutdown := h.asking.required _ _ hd _ List.mem_cons_self hl
    rw [h.asking.asked.mpr (Or.inr hstops)] at hshutdown
    cases hshutdown

/-- Where the transcript is clean, the driver does not give up at an event. -/
theorem Steadfast.handle_not_failed (h : Steadfast t sent s) (ht : t.Clean) (hs : ¬s.Doomed)
    {e : HostEvent} {rest : List HostEvent} (hd : s.drive = .waiting)
    (hi : s.events.items = e :: rest) (f : DriveFault) : (s.driver.handle e).sequel ≠ .failed f := by
  intro hf
  have hopen : ¬s.drive.Finished := by
    rw [hd]
    exact id
  rcases Driver.handle_failed hf with rfl | ⟨line, rfl, halarm⟩
  · exact not_scriptClosed h.speech hs h.attribution.hearing h.delivery hopen hi
  · obtain ⟨taken, hsent, -⟩ := h.delivery.underway hopen
    have hl : line ∈ sent.map Frame.encode := by
      rw [hsent, arriving_cons hi]
      exact List.mem_append_right _ (List.mem_append_left _ (List.mem_singleton_self _))
    rw [h.not_alarming ht hl] at halarm
    cases halarm

/-- Where the transcript is clean, neither side fails. -/
theorem Steadfast.not_doomed_of_clean (h : Steadfast t sent s) (ho : o.limit = none) (ht : t.Clean)
    (hs : ¬s.Doomed) (hturn : Turn o s frames next) : ¬next.Doomed := by
  have ⟨hscript, hdrive, hsending⟩ := not_doomed_iff.mp hs
  rw [not_doomed_iff]
  cases hturn with
  | failScript hgoing hf => exact absurd hf (h.not_breaks ho ht hs _)
  | failDrive hgoing hf => exact absurd hf (h.not_quits hs _)
  | write | listen | take | stop => exact ⟨nofun, hdrive, hsending⟩
  | handle hd hi =>
    refine ⟨hscript, nofun, fun lines f hf => h.handle_not_failed ht hs hd hi f ?_⟩
    exact (DriveStage.sending.inj hf).2
  | tick hd htick => exact absurd htick (Driver.not_ticking h.asking.mode)
  | await | finish => exact ⟨hscript, nofun, nofun⟩
  | send hd | drop hd =>
    refine ⟨hscript, nofun, fun lines f hf => ?_⟩
    rw [(DriveStage.sending.inj hf).2] at hd
    exact hsending _ f hd
  | _ => exact ⟨hscript, hdrive, hsending⟩

/-! ## Threads that cannot go on -/

theorem stepSession_eq_none (h : s.stepSession o = none) :
    (∃ f, s.script = .ended f) ∨ s.script = .reading ∧ s.pair.toScript.items = [] := by
  unfold stepSession at h
  cases hs : s.script with
  | ended f => exact Or.inl ⟨f, rfl⟩
  | reading =>
    rw [hs] at h
    unfold Pair.receive at h
    rcases receive_cases none s.pair.toScript with ⟨line, rest, hi, hr⟩ | ⟨hi, -⟩
    · rw [hr] at h
      cases h
    · exact Or.inr ⟨rfl, hi⟩
  | writing frames v =>
    rw [hs] at h
    cases frames with
    | nil => cases h
    | cons f rest =>
      dsimp only at h
      split at h <;> cases h

theorem stepDriver_eq_none (h : s.stepDriver = none) :
    (∃ f, s.drive = .ended f) ∨ s.drive = .waiting ∧ s.events.items = [] := by
  unfold stepDriver at h
  split at h
  · rename_i f hd
    exact Or.inl ⟨f, hd⟩
  · rename_i hd
    refine Or.inr ⟨hd, ?_⟩
    rw [Option.map_eq_none_iff] at h
    unfold Queue.take? at h
    split at h
    · assumption
    · cases h
  · cases h
  · cases h
  · cases h
  · split at h
    · cases h
    · split at h <;> cases h

theorem stepFrames_eq_none (h : s.stepFrames = none) :
    s.pair.toHost.receiverOpen = false ∨ s.pair.toHost.items = [] := by
  unfold stepFrames at h
  split at h
  · unfold Pair.hostReceive at h
    rcases receive_cases none s.pair.toHost with ⟨line, rest, hi, hr⟩ | ⟨hi, -⟩
    · rw [hr] at h
      dsimp only at h
      split at h <;> cases h
    · exact Or.inr hi
  · rename_i hclosed
    exact Or.inl (Bool.eq_false_iff.mpr hclosed)

theorem stepInput_eq_none (h : s.stepInput = none) : s.input = none := by
  unfold stepInput at h
  split at h
  · assumption
  · cases h
  · split at h <;> cases h

/-- A session that waits for a line of a driver that waits for an event would have been asked to stop. -/
theorem Steadfast.not_idle (h : Steadfast t sent s) (hs : s.script = .reading)
    (hi : s.pair.toScript.items = []) (hd : s.drive = .waiting) (he : s.events.items = [])
    (hinput : s.input = none) (hlines : s.arriving = []) : False := by
  obtain ⟨taken, hsent, hcount, -⟩ := h.delivery.underway (by rw [hd]; exact id)
  rw [hlines, List.append_nil] at hsent
  have hready : s.driver.ready = true := by
    obtain ⟨f, hf, htells⟩ := h.announced
    rw [hs] at hf
    have hf : f ∈ sent ++ [] := hf
    rw [List.append_nil] at hf
    refine hcount.ready f.encode ?_ htells
    rw [← hsent]
    exact List.mem_map.mpr ⟨f, hf, rfl⟩
  have hclosed : s.driver.inputClosed = true := by
    rcases h.intake.told hinput with hc | hc | ⟨f, hf⟩
    · rw [he] at hc
      cases hc
    · exact hc
    · rw [hd] at hf
      cases hf
  have hdep : s.departing = [] := by
    rw [departing_waiting (by rw [hd]; rfl), hi]
  rcases h.asking.asked.mp (h.asking.settled hclosed hready) with ⟨line, hl, -⟩ | hstops
  · rw [hdep] at hl
    cases hl
  · rw [hs] at hstops
    exact hstops

/-- Threads that cannot go on are through. -/
theorem Steadfast.over_of_stuck (h : Steadfast t sent s) (hs : ¬s.Doomed)
    (hstuck : ∀ m, s.step o m = none) : s.script = .ended none ∧ s.drive = .ended none := by
  obtain ⟨hscript, hdrive, -⟩ := not_doomed_iff.mp hs
  have hsession := stepSession_eq_none (hstuck .session)
  rcases stepDriver_eq_none (hstuck .driver) with ⟨f, hf⟩ | ⟨hd, he⟩
  · cases f with
    | some f => exact absurd hf (hdrive f)
    | none =>
      have hstops := (h.delivery.finished (by rw [hf]; rfl)).1
      rcases hsession with ⟨g, hg⟩ | ⟨hr, -⟩
      · cases g with
        | none => exact ⟨hg, hf⟩
        | some g => exact absurd hg (hscript g)
      · rw [hr] at hstops
        exact hstops.elim
  · have hnone : s.pair.toHost.items = [] := by
      rcases stepFrames_eq_none (hstuck .frames) with hclosed | hnone
      · rcases h.attribution.ends.receiver hclosed with ⟨-, hnone⟩ | ⟨f, hf⟩
        · exact hnone
        · rw [hd] at hf
          cases hf
      · exact hnone
    have hlines : s.arriving = [] := by
      unfold arriving
      rw [he, hnone]
      rfl
    rcases hsession with ⟨g, hg⟩ | ⟨hr, hi⟩
    · -- the driver took every line, but not the acknowledgement
      obtain ⟨taken, hsent, -, hsilent⟩ := h.delivery.underway (by rw [hd]; exact id)
      rw [hlines, List.append_nil] at hsent
      have hspeech := h.speech
      cases g with
      | none =>
        rw [hg] at hspeech
        obtain ⟨line, hl, htells⟩ := hspeech.exists_shutdownAck
        rw [hsilent line (hsent ▸ hl)] at htells
        cases htells
      | some g => exact absurd hg (hscript g)
    · exact (h.not_idle hr hi hd he (stepInput_eq_none (hstuck .input)) hlines).elim

end

end System

end ScriptLink
