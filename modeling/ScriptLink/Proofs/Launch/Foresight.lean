import ScriptLink.Proofs.Launch.Intake

/-!
# ScriptLink.Proofs.Launch.Foresight — what a session will have heard in the end

* `System.agenda`: the lines that the session will have to take, wherever they are, without those that mean
  nothing to it. Replies to calls are among the latter, so the agenda is the same whenever the driver
  answers.
* `ScriptStage.outlook`: what the session will write and what will become of it if it takes such lines.
* `Foreseen`: what the session wrote and what it will write resembles a given transcript. It outlives every
  turn.
-/

namespace ScriptLink

open ScriptLink.Frame (tells idle forwarded remarks)

open ScriptLink.Transcript (Resembles)

/-! ## Outlooks -/

namespace ScriptStage

/-- What a session at a stage will write and what will become of it if it takes the lines of an agenda. -/
def outlook (d : Dispatcher σ) (agenda : List String) : ScriptStage → Transcript σ
  | .writing frames v =>
    match v.ending? with
    | some e => ⟨frames, 0, d, some e⟩
    | none => (d.transcribe (fun _ => 0) 0 agenda).preceded frames
  | .reading => d.transcribe (fun _ => 0) 0 agenda
  | .ended none => ⟨[], 0, d, some .stopped⟩
  | .ended (some f) => ⟨[], 0, d, some (.failed f)⟩

section

variable {d : Dispatcher σ} {agenda : List String}

theorem outlook_of_some {v : Verdict} {e : Ending} (h : v.ending? = some e) (frames : List Frame) :
    outlook d agenda (.writing frames v) = ⟨frames, 0, d, some e⟩ := by
  rw [outlook, h]

theorem outlook_of_none {v : Verdict} (h : v.ending? = none) (frames : List Frame) :
    outlook d agenda (.writing frames v) =
      (d.transcribe (fun _ => 0) 0 agenda).preceded frames := by
  rw [outlook, h]

theorem outlook_write (f : Frame) (rest : List Frame) (v : Verdict) :
    outlook d agenda (.writing (f :: rest) v) =
      (outlook d agenda (.writing rest v)).preceded [f] := by
  cases h : v.ending? with
  | some e =>
    rw [outlook_of_some h, outlook_of_some h]
    rfl
  | none =>
    rw [outlook_of_none h, outlook_of_none h]
    rfl

theorem outlook_listen {v : Verdict} (h : v.ending? = none) :
    outlook d agenda (.writing [] v) = outlook d agenda .reading :=
  outlook_of_none h []

/-- A session that stops takes no more lines. -/
theorem outlook_of_stops {stage : ScriptStage} (h : stage.Stops) (other : List String) :
    stage.outlook d agenda = stage.outlook d other := by
  cases stage with
  | writing frames v =>
    have hv : v = .stop := h
    rw [hv]
    rfl
  | reading => exact h.elim
  | ended f =>
    have hf : f = none := h
    rw [hf]
    rfl

/-- Lines behind a shutdown are not taken. -/
theorem outlook_append_of_shutdown {stage : ScriptStage}
    (h : ∃ line ∈ agenda, tells .shutdown line = true) (more : List String) :
    stage.outlook d (agenda ++ more) = stage.outlook d agenda := by
  have hsame := Dispatcher.transcribe_append_of_shutdown (fun _ => 0) 0 h more d
  cases stage with
  | writing frames v =>
    cases hv : v.ending? with
    | some e => rw [outlook_of_some hv, outlook_of_some hv]
    | none => rw [outlook_of_none hv, outlook_of_none hv, hsame]
  | reading => exact hsame
  | ended f => cases f <;> rfl

end

end ScriptStage

namespace Dispatcher

variable {d : Dispatcher σ}

/-- Responses that cannot be told apart have such outlooks. -/
theorem outlook_of_resembles {r t : Response σ} (h : Response.Resembles r t) (hr : r.next.Tame)
    (agenda : List String) :
    Resembles (ScriptStage.outlook r.next agenda (.writing r.replies r.verdict))
      (ScriptStage.outlook t.next agenda (.writing t.replies t.verdict)) := by
  rw [← h.verdict]
  cases hv : r.verdict.ending? with
  | some e =>
    rw [ScriptStage.outlook_of_some hv, ScriptStage.outlook_of_some hv]
    exact ⟨h.heard, h.next, rfl⟩
  | none =>
    rw [ScriptStage.outlook_of_none hv, ScriptStage.outlook_of_none hv]
    exact (h.next.transcribe_anytime hr _ _ 0 0 agenda).preceded h.heard

/-- The outlook of a session that waits is that after the next line. -/
theorem Tame.outlook_cons (h : d.Tame) (now : UInt64) (line : String) (rest : List String) :
    let r := d.dispatch now (Frame.decode line)
    Resembles (ScriptStage.outlook r.next rest (.writing r.replies r.verdict))
      (ScriptStage.outlook d (line :: rest) .reading) := by
  intro r
  let q := d.dispatch 0 (Frame.decode line)
  have hq : Response.Resembles r q :=
    (Alike.refl d).dispatch_anytime h (Frame.portable_decode line) now 0
  refine (outlook_of_resembles hq (h.dispatch now _) rest).trans ?_
  have hnext : q.next.Tame := h.dispatch 0 _
  show Resembles _ (d.transcribe (fun _ => 0) 0 (line :: rest))
  cases hv : q.verdict.ending? with
  | some e =>
    rw [ScriptStage.outlook_of_some hv, @transcribe_of_some _ (fun _ => 0) 0 line rest d e hv]
    exact ⟨rfl, .refl _, rfl⟩
  | none =>
    rw [ScriptStage.outlook_of_none hv, @transcribe_of_none _ (fun _ => 0) 0 line rest d hv]
    exact ((Alike.refl q.next).transcribe_anytime hnext _ _ 0 1 rest).preceded rfl

/-- A line that means nothing does not change the outlook. -/
theorem Tame.outlook_idle (h : d.Tame) (now : UInt64) {line : String} (hl : idle line = true)
    (agenda : List String) :
    let r := d.dispatch now (Frame.decode line)
    Resembles (ScriptStage.outlook r.next agenda (.writing r.replies r.verdict))
      (ScriptStage.outlook d agenda .reading) := by
  intro r
  obtain ⟨hnext, -, hverdict⟩ := h.dispatch_idle hl now
  have hr : Response.Resembles ⟨d, [], .proceed⟩ r :=
    ⟨hnext, (h.remarks_idle hl now).symm, hverdict.symm⟩
  exact (outlook_of_resembles hr h agenda).symm

end Dispatcher

namespace System

/-! ## Agendas -/

/-- What of some lines means something to a session. -/
def busy (lines : List String) : List String := lines.filter fun line => !idle line

theorem busy_append (xs ys : List String) : busy (xs ++ ys) = busy xs ++ busy ys :=
  List.filter_append xs ys

theorem busy_eq_nil {sends : List Outgoing} (h : ∀ l ∈ sends, idle l.line = true) :
    busy (sends.map Outgoing.line) = [] := by
  refine List.filter_eq_nil_iff.mpr fun line hline => ?_
  obtain ⟨l, hl, rfl⟩ := List.mem_map.mp hline
  rw [h l hl]
  decide

/-- The external input that the driver did not take yet. -/
def incoming (s : System σ) : List String :=
  s.events.items.filterMap HostEvent.external? ++ s.input.getD []

/-- The lines that the session will have to take, the shutdown at the end of external input the last. -/
def agenda (s : System σ) : List String :=
  busy (s.departing ++ (s.incoming.map forwarded ++ [Driver.closing]))

theorem busy_closing : busy [Driver.closing] = [Driver.closing] := by
  unfold busy
  rw [List.filter_cons_of_pos (by rw [Driver.idle_closing]; rfl), List.filter_nil]

section

variable {o : Options} {sent frames : List Frame} {s next : System σ}

theorem agenda_congr (hd : next.departing = s.departing) (hi : next.incoming = s.incoming) :
    next.agenda = s.agenda := by
  unfold agenda
  rw [hd, hi]

/-- Events that bring no external input leave what comes of it as it is. -/
theorem incoming_append_quiet {more : List HostEvent}
    (hevents : next.events.items = s.events.items ++ more) (hinput : next.input = s.input)
    (hm : ∀ e ∈ more, e.external? = none) : next.incoming = s.incoming := by
  unfold incoming
  rw [hevents, hinput, List.filterMap_append, List.filterMap_eq_nil_iff.mpr hm, List.append_nil]

/-- An event takes a line from the external input. -/
theorem incoming_cons {e : HostEvent} {rest : List HostEvent} (h : s.events.items = e :: rest) :
    s.incoming = e.external?.toList ++ incoming { s with events.items := rest } := by
  unfold incoming
  rw [h, List.filterMap_cons]
  cases e.external? <;> rfl

/-- Once the external input is closed, there is nothing more of it. -/
theorem Intake.incoming_nil (h : Intake s) (hc : s.driver.inputClosed = true) : s.incoming = [] := by
  unfold incoming
  rw [List.filterMap_eq_nil_iff.mpr (h.through hc), h.exhausted (Or.inr hc)]
  rfl

/-- Whatever event the driver takes, it does not change the outlook. -/
theorem Intake.outlook_handle (h : Intake s) {e : HostEvent} {rest : List HostEvent}
    (hd : s.drive = .waiting) (hi : s.events.items = e :: rest) (d : Dispatcher σ)
    (stage : ScriptStage) :
    stage.outlook d (agenda ({ s with events.items := rest }.react (s.driver.handle e))) =
      stage.outlook d s.agenda := by
  let next := { s with events.items := rest }.react (s.driver.handle e)
  let sends := (s.driver.handle e).sends.map Outgoing.line
  have hdep : s.departing = s.pair.toScript.items := departing_waiting (by rw [hd]; rfl)
  have hnext : next.agenda = busy (s.pair.toScript.items ++ sends ++
      (next.incoming.map forwarded ++ [Driver.closing])) := rfl
  have hincoming : s.incoming = e.external?.toList ++ next.incoming := incoming_cons hi
  have hagenda : s.agenda = busy (s.pair.toScript.items ++
      ((e.external?.toList ++ next.incoming).map forwarded ++ [Driver.closing])) := by
    unfold agenda
    rw [hdep, hincoming]
  show stage.outlook d next.agenda = _
  rw [hnext, hagenda]
  rcases (s.driver.forwards_handle e).sends with ⟨line, he, hl⟩ | ⟨he, hl | ⟨hl, hclosed, -⟩⟩
  · have hsends : sends = [forwarded line] := hl
    rw [Option.mem_def.mp he, hsends]
    simp
  · -- answers to calls are no part of the agenda
    have hsends : busy sends = [] := busy_eq_nil hl
    rw [he, busy_append, busy_append, hsends, List.append_nil, Option.toList_none, List.nil_append,
      busy_append s.pair.toScript.items]
  · -- the shutdown that is sent is the one that was foreseen
    have hsends : sends = [Driver.closing] := hl
    have hnone : next.incoming = [] := (h.handle hd hi).incoming_nil hclosed
    rw [he, hsends, hnone, Option.toList_none, List.nil_append, List.map_nil, List.nil_append,
      busy_append, busy_closing]
    refine ScriptStage.outlook_append_of_shutdown ⟨Driver.closing, ?_, Driver.tells_closing⟩ _
    rw [busy_append, busy_closing]
    exact List.mem_append_right _ (List.mem_singleton_self _)

/-! ## Foresight -/

/-- What the session wrote and will write, in whatever way the threads go on, resembles `t`. -/
structure Foreseen (t : Transcript σ) (sent : List Frame) (s : System σ) : Prop where
  tame : s.dispatcher.Tame
  outlook : Resembles ((s.script.outlook s.dispatcher s.agenda).preceded sent) t

variable {t : Transcript σ}

/-- A move of the host does not change what was foreseen. -/
theorem Foreseen.reroute (h : Foreseen t sent s) (hd : next.dispatcher = s.dispatcher)
    (hs : next.script = s.script)
    (ho : s.script.outlook s.dispatcher next.agenda = s.script.outlook s.dispatcher s.agenda) :
    Foreseen t sent next := by
  refine ⟨hd ▸ h.tame, ?_⟩
  rw [hs, hd, ho]
  exact h.outlook

theorem Foreseen.resume (h : Foreseen t sent s) (hd : next.dispatcher = s.dispatcher)
    (hs : next.script = s.script) (ha : next.agenda = s.agenda) : Foreseen t sent next :=
  h.reroute hd hs (by rw [ha])

theorem Foreseen.take (h : Foreseen t sent s) {line : String} {rest : List String}
    (hs : s.script = .reading) (hi : s.pair.toScript.items = line :: rest) :
    Foreseen t sent ({ s with pair.toScript.items := rest }.takeLine o line) := by
  let next := { s with pair.toScript.items := rest }.takeLine o line
  refine ⟨h.tame.dispatch _ _, ?_⟩
  have hagenda : s.agenda = busy (line :: (next.departing ++
      (next.incoming.map forwarded ++ [Driver.closing]))) := by
    unfold agenda departing
    rw [hi]
    rfl
  have houtlook := h.outlook
  rw [hs, hagenda] at houtlook
  refine .trans (.preceded ?_ rfl) houtlook
  by_cases hl : idle line = true
  · unfold busy
    rw [List.filter_cons_of_neg (by rw [hl]; decide)]
    exact h.tame.outlook_idle _ hl next.agenda
  · have hl : idle line = false := Bool.eq_false_iff.mpr hl
    unfold busy
    rw [List.filter_cons_of_pos (by rw [hl]; decide)]
    exact h.tame.outlook_cons _ line next.agenda

theorem Foreseen.turn (hhear : Hearing s.script s.drive s.pair s.events)
    (hdelivery : Delivery sent s) (hintake : Intake s) (hasking : Asking s)
    (h : Foreseen t sent s) (ht : Turn o s frames next) (hnext : ¬next.Doomed) :
    Foreseen t (sent ++ frames) next := by
  have hs : ¬s.Doomed := fun hd => hnext (hd.turn ht)
  have hstops (hstops : s.script.Stops) (agenda : List String) :
      s.script.outlook s.dispatcher agenda = s.script.outlook s.dispatcher s.agenda :=
    ScriptStage.outlook_of_stops hstops _
  cases ht with
  | @write f rest v hs =>
    refine ⟨h.tame, ?_⟩
    have houtlook := h.outlook
    rw [hs, ScriptStage.outlook_write, Transcript.preceded_preceded] at houtlook
    exact houtlook
  | listen hs hv hn =>
    rw [List.append_nil]
    refine ⟨h.tame, ?_⟩
    have houtlook := h.outlook
    rw [hs, ScriptStage.outlook_listen hn] at houtlook
    exact houtlook
  | stop hs =>
    rw [List.append_nil]
    refine ⟨h.tame, ?_⟩
    have houtlook := h.outlook
    rw [hs] at houtlook
    exact houtlook
  | take hs hi =>
    rw [List.append_nil]
    exact h.take hs hi
  | failScript => exact absurd (Or.inl ⟨_, rfl⟩) hnext
  | forward =>
    rw [List.append_nil]
    refine h.resume rfl rfl (agenda_congr rfl (incoming_append_quiet rfl rfl ?_))
    exact List.forall_mem_singleton.mpr rfl
  | hangUp hi hs hm =>
    rw [List.append_nil]
    refine h.resume rfl rfl (agenda_congr rfl (incoming_append_quiet rfl rfl ?_))
    rcases hm with rfl | rfl
    · exact List.forall_mem_singleton.mpr rfl
    · exact nofun
  | deafen =>
    rw [List.append_nil]
    exact h.resume rfl rfl rfl
  | feed hi hm hf =>
    rw [List.append_nil]
    cases hf with
    | pass hi he =>
      refine h.resume rfl rfl (agenda_congr rfl ?_)
      unfold incoming
      rw [hi, List.filterMap_append, List.append_assoc]
      rfl
    | close hi he =>
      refine h.resume rfl rfl (agenda_congr rfl ?_)
      unfold incoming
      rw [hi, List.filterMap_append, List.append_assoc]
      rfl
    | leave he =>
      -- the driver has hung up, so the session took all that it will take
      obtain ⟨f, hf⟩ := hhear.listener he
      cases f with
      | none => exact h.reroute rfl rfl (hstops (hdelivery.finished (by rw [hf]; rfl)).1 _)
      | some f => exact absurd (Or.inr (Or.inl ⟨f, hf⟩)) hs
  | handle hd hi =>
    rw [List.append_nil]
    exact h.reroute rfl rfl (hintake.outlook_handle hd hi _ _)
  | tick hd ht => exact absurd ht (Driver.not_ticking hasking.mode)
  | await hd | finish hd =>
    rw [List.append_nil]
    refine h.resume rfl rfl (agenda_congr ?_ rfl)
    unfold departing
    rw [hd]
    rfl
  | failDrive => exact absurd (Or.inr (Or.inl ⟨_, rfl⟩)) hnext
  | send hd =>
    rw [List.append_nil]
    refine h.resume rfl rfl (agenda_congr ?_ rfl)
    unfold departing
    rw [hd, List.append_assoc]
    rfl
  | drop hd hclosed =>
    rw [List.append_nil]
    exact h.reroute rfl rfl (hstops (stops_of_receiverClosed hhear hs hclosed) _)

end

end System

end ScriptLink
