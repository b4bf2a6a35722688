import ScriptLink.Launch.Run
import ScriptLink.Proofs.Host.Drive
import ScriptLink.Proofs.Launch.Turn
import ScriptLink.Proofs.Session.Careful

/-!
# ScriptLink.Proofs.Launch.Delivery — every line arrives and is counted

* `Speech`: what a session writes, up to the acknowledgement of a shutdown, after which it writes nothing.
* `Hearing`: what hung-up ends of queues say about the sides, and that the news of a session that hung up
  comes after its lines.
* `Delivery`: the lines written are those the driver took and those on the way to it, in this order, and
  the driver counted those it took; once the drive is over, it took them all.

Each of them outlives every turn.
-/

namespace ScriptLink

open ScriptLink.Frame (tells alarming)

namespace ScriptStage

/-- The frames that are about to be written. -/
def unwritten : ScriptStage → List Frame
  | .writing frames _ => frames
  | _ => []

/-- The session will wait for a line, unless it fails. -/
def Goes : ScriptStage → Prop
  | .writing _ v => v ≠ .stop
  | .reading => True
  | .ended _ => False

/-- The session stops or stopped, in good order. -/
def Stops : ScriptStage → Prop
  | .writing _ v => v = .stop
  | .reading => False
  | .ended f => f = none

end ScriptStage

/-- The drive is over or about to be, in good order. -/
def DriveStage.Finished : DriveStage → Prop
  | .waiting => False
  | .sending _ q => q = .done
  | .ended f => f = none

/-! ## What a session writes -/

/-- What a session that wrote the frames `sent` and stands at `stage` writes altogether. -/
structure Speech (sent : List Frame) (stage : ScriptStage) (d : Dispatcher σ) : Prop where
  careful : d.Careful
  sound : ∀ f ∈ sent ++ stage.unwritten, f.kind = .pong ∨ f.kind = .hostCall →
    (Frame.decode f.encode).kind = f.kind
  goes : stage.Goes → ∀ f ∈ sent ++ stage.unwritten, f.kind ≠ .shutdownAck
  stops : stage.Stops → ∃ reason before, d.phase = .shuttingDown reason ∧
    sent ++ stage.unwritten = before ++ [.shutdownAck reason] ∧
    ∀ f ∈ before, f.kind ≠ .shutdownAck

namespace Speech

variable {sent : List Frame} {stage : ScriptStage} {d : Dispatcher σ}

theorem ready (h : d.Careful) : Speech [] (.writing [d.ready] .proceed) d where
  careful := h
  sound := by
    intro f hf hk
    rw [List.mem_singleton.mp hf] at hk
    rcases hk with hk | hk <;> cases hk
  goes _ := by
    intro f hf
    rw [List.mem_singleton.mp hf]
    exact Frame.Kind.noConfusion
  stops h := by cases h

theorem write {f : Frame} {rest : List Frame} {v : Verdict}
    (h : Speech sent (.writing (f :: rest) v) d) : Speech (sent ++ [f]) (.writing rest v) d := by
  obtain ⟨hc, hsound, hgoes, hstops⟩ := h
  have he : sent ++ [f] ++ rest = sent ++ f :: rest := List.append_cons .. |>.symm
  refine ⟨hc, ?_, ?_, ?_⟩ <;> dsimp only [ScriptStage.unwritten] <;> rw [he]
  · exact hsound
  · exact hgoes
  · exact hstops

theorem listen {v : Verdict} (h : Speech sent (.writing [] v) d) (hv : v ≠ .stop) :
    Speech sent .reading d :=
  ⟨h.careful, h.sound, fun _ => h.goes hv, nofun⟩

theorem stop (h : Speech sent (.writing [] .stop) d) : Speech sent (.ended none) d :=
  ⟨h.careful, h.sound, nofun, fun _ => h.stops rfl⟩

theorem fail (h : Speech sent stage d) (f : SessionFault) : Speech sent (.ended (some f)) d := by
  refine ⟨h.careful, ?_, nofun, nofun⟩
  intro g hg
  have hg : g ∈ sent ++ [] := hg
  rw [List.append_nil] at hg
  exact h.sound g (List.mem_append_left _ hg)

/-- A session that waits takes a line. -/
theorem take (h : Speech sent .reading d) (now : UInt64) (line : String) :
    let r := d.dispatch now (Frame.decode line)
    Speech sent (.writing r.replies r.verdict) r.next := by
  intro r
  have hsilent : ∀ f ∈ sent, f.kind ≠ .shutdownAck := fun f hf =>
    h.goes trivial f (List.mem_append_left _ hf)
  refine ⟨Dispatcher.careful_dispatch h.careful now _, ?_, ?_, ?_⟩
  · intro f hf hk
    rcases List.mem_append.mp hf with hf | hf
    · exact h.sound f (List.mem_append_left _ hf) hk
    · exact Dispatcher.kind_decode_of_mem_replies h.careful (Frame.portable_decode line) hf hk
  · intro hv f hf
    have hkind : (Frame.decode line).kind ≠ .shutdown := fun hk =>
      hv ((Dispatcher.verdict_stop_iff now _ d).mpr hk)
    rcases List.mem_append.mp hf with hf | hf
    · exact hsilent f hf
    · exact Dispatcher.kind_ne_shutdownAck hkind hf
  · intro hv
    have hkind := (Dispatcher.verdict_stop_iff now _ d).mp hv
    obtain ⟨reason, hr⟩ := Dispatcher.eq_shutdown hkind
    refine ⟨Value.plainOr Dispatcher.defaultReason reason, sent, ?_, ?_, hsilent⟩
    · show (d.dispatch now (Frame.decode line)).next.phase = _
      rw [hr]
      rfl
    · show sent ++ (d.dispatch now (Frame.decode line)).replies = _
      rw [hr]
      rfl

theorem turn {o : Options} {s next : System σ} {frames : List Frame}
    (h : Speech sent s.script s.dispatcher) (ht : System.Turn o s frames next) :
    Speech (sent ++ frames) next.script next.dispatcher := by
  cases ht with
  | write hs =>
    rw [hs] at h
    exact h.write
  | listen hs hv =>
    rw [hs] at h
    rw [List.append_nil]
    exact h.listen hv
  | stop hs =>
    rw [hs] at h
    rw [List.append_nil]
    exact h.stop
  | take hs =>
    rw [hs] at h
    rw [List.append_nil]
    exact h.take _ _
  | failScript =>
    rw [List.append_nil]
    exact h.fail _
  | _ =>
    rw [List.append_nil]
    exact h

theorem last_of_append {α : Type} {p : α → Prop} {xs ys zs : List α} {x y : α}
    (h : xs ++ x :: ys = zs ++ [y]) (hx : p x) (hz : ∀ z ∈ zs, ¬p z) : x = y ∧ ys = [] := by
  rcases List.eq_nil_or_concat ys with rfl | ⟨init, w, rfl⟩
  · obtain ⟨-, h⟩ := List.append_inj' h rfl
    exact ⟨List.head_eq_of_cons_eq h, rfl⟩
  · have h : xs ++ x :: init ++ [w] = zs ++ [y] := by
      rw [← h, List.append_assoc]
      simp
    obtain ⟨rfl, -⟩ := List.append_inj' h rfl
    exact absurd hx (hz x (List.mem_append_right _ List.mem_cons_self))

/-- Nothing comes after an acknowledgement. -/
theorem last_of_shutdownAck (h : Speech sent stage d) (hstage : stage.Goes ∨ stage.Stops)
    {before after : List Frame} {f : Frame} (hsent : sent = before ++ f :: after)
    (hk : f.kind = .shutdownAck) :
    ∃ reason, d.phase = .shuttingDown reason ∧ f = .shutdownAck reason ∧ after = [] ∧
      stage.Stops ∧ stage.unwritten = [] := by
  rcases hstage with hg | hs
  · have hf : f ∈ sent := by
      rw [hsent]
      exact List.mem_append_right _ List.mem_cons_self
    exact absurd hk (h.goes hg f (List.mem_append_left _ hf))
  · obtain ⟨reason, silent, hphase, he, hsilent⟩ := h.stops hs
    rw [hsent, List.append_assoc, List.cons_append] at he
    obtain ⟨hlast, hnil⟩ := last_of_append he hk hsilent
    obtain ⟨hafter, hunwritten⟩ := List.append_eq_nil_iff.mp hnil
    exact ⟨reason, hphase, hlast, hafter, hs, hunwritten⟩

/-- A session that stopped wrote an acknowledgement. -/
theorem exists_shutdownAck (h : Speech sent (.ended none) d) :
    ∃ line ∈ sent.map Frame.encode, tells .shutdownAck line = true := by
  obtain ⟨reason, before, -, he, -⟩ := h.stops rfl
  have he : sent ++ [] = before ++ [.shutdownAck reason] := he
  rw [List.append_nil] at he
  have hmem : Frame.shutdownAck reason ∈ sent :=
    he ▸ List.mem_append_right _ (List.mem_singleton_self _)
  refine ⟨_, List.mem_map.mpr ⟨_, hmem, rfl⟩, ?_⟩
  rw [Frame.tells_iff, Frame.decode_shutdownAck]
  rfl

end Speech

namespace System

/-! ## Ends of queues -/

/-- What the ends of the queues say about the sides. -/
structure Hearing (script : ScriptStage) (drive : DriveStage) (p : Pair) (q : Queue HostEvent) :
    Prop where
  sender : p.toHost.senderOpen = false → ∃ f, script = .ended f
  receiver : p.toScript.receiverOpen = false → ∃ f, script = .ended f
  listener : q.receiverOpen = false → ∃ f, drive = .ended f
  closed : .scriptClosed ∈ q.items → (∃ f, script = .ended f) ∧ p.toHost.items = [] ∧
    p.toHost.receiverOpen = false
  order : q.items.Pairwise fun a b => a = .scriptClosed → b.line? = none

theorem Hearing.start : Hearing (.writing [f] .proceed) .waiting .empty .empty :=
  ⟨nofun, nofun, nofun, nofun, .nil⟩

/-- While the session goes on, its ends of the queues are open and it is not known to have hung up. -/
theorem Hearing.of_going {script : ScriptStage} {drive : DriveStage} {p : Pair}
    {q : Queue HostEvent} (h : Hearing script drive p q) (hs : ∀ f, script ≠ .ended f) :
    p.toHost.senderOpen ≠ false ∧ p.toScript.receiverOpen ≠ false ∧ .scriptClosed ∉ q.items := by
  have hno : ¬∃ f, script = .ended f := fun ⟨f, hf⟩ => hs f hf
  exact ⟨fun e => hno (h.sender e), fun e => hno (h.receiver e), fun e => hno (h.closed e).1⟩

/-- Events that bring no line may come at any time. -/
theorem pairwise_append_quiet {items more : List HostEvent}
    (h : items.Pairwise fun a b => a = .scriptClosed → b.line? = none)
    (hm : ∀ e ∈ more, e.line? = none) :
    (items ++ more).Pairwise fun a b => a = .scriptClosed → b.line? = none := by
  refine List.pairwise_append.mpr ⟨h, ?_, fun _ _ b hb _ => hm b hb⟩
  exact List.pairwise_of_forall_mem_list fun _ _ b hb _ => hm b hb

theorem Hearing.turn {o : Options} {s next : System σ} {frames : List Frame}
    (h : Hearing s.script s.drive s.pair s.events) (ht : Turn o s frames next) :
    Hearing next.script next.drive next.pair next.events := by
  have ⟨hsender, hreceiver, hlistener, hclosed, horder⟩ := h
  cases ht with
  | write hs | listen hs | take hs =>
    obtain ⟨h₁, h₂, h₃⟩ := h.of_going (by simp [hs])
    exact ⟨fun e => absurd e h₁, fun e => absurd e h₂, hlistener, fun e => absurd e h₃, horder⟩
  | stop hs =>
    obtain ⟨-, -, h₃⟩ := h.of_going (by simp [hs])
    exact ⟨fun _ => ⟨_, rfl⟩, fun _ => ⟨_, rfl⟩, hlistener, fun e => absurd e h₃, horder⟩
  | failScript hs =>
    obtain ⟨-, -, h₃⟩ := h.of_going hs
    exact ⟨fun _ => ⟨_, rfl⟩, fun _ => ⟨_, rfl⟩, hlistener, fun e => absurd e h₃, horder⟩
  | @forward line rest hi hopen he =>
    -- the forwarder still passes lines on, so it did not tell that the session hung up
    have hnot : .scriptClosed ∉ s.events.items := by
      intro e
      rw [(hclosed e).2.2] at hopen
      cases hopen
    refine ⟨hsender, hreceiver, hlistener, ?_, ?_⟩
    · intro e
      rcases List.mem_append.mp e with e | e
      · exact absurd e hnot
      · cases List.mem_singleton.mp e
    · refine List.pairwise_append.mpr ⟨horder, List.pairwise_singleton _ _, ?_⟩
      intro a ha b hb hclose
      exact absurd (hclose ▸ ha) hnot
  | deafen hi =>
    refine ⟨hsender, hreceiver, hlistener, fun e => ?_, horder⟩
    rw [(hclosed e).2.1] at hi
    cases hi
  | hangUp hi hs hm =>
    refine ⟨hsender, hreceiver, hlistener, fun _ => ⟨hsender hs, hi, rfl⟩, ?_⟩
    refine pairwise_append_quiet horder ?_
    rcases hm with rfl | rfl <;> simp [HostEvent.line?]
  | feed _ hm =>
    refine ⟨hsender, hreceiver, hlistener, ?_, pairwise_append_quiet horder ?_⟩
    · intro e
      rcases List.mem_append.mp e with e | e
      · exact hclosed e
      · rcases hm _ e with ⟨line, h⟩ | h <;> cases h
    · intro e he
      rcases hm e he with ⟨line, rfl⟩ | rfl <;> rfl
  | handle hd hi =>
    rw [hi] at hclosed horder
    refine ⟨hsender, hreceiver, fun e => ?_, fun e => hclosed (List.mem_cons_of_mem _ e),
      (List.pairwise_cons.mp horder).2⟩
    obtain ⟨f, hf⟩ := hlistener e
    rw [hf] at hd
    cases hd
  | tick hd | await hd | send hd | drop hd =>
    refine ⟨hsender, hreceiver, fun e => ?_, hclosed, horder⟩
    obtain ⟨f, hf⟩ := hlistener e
    rw [hf] at hd
    cases hd
  | finish | failDrive => exact ⟨hsender, hreceiver, fun _ => ⟨_, rfl⟩, hclosed, horder⟩

/-! ## Lines on their way -/

/-- The lines of the session that the driver did not take yet. -/
def arriving (s : System σ) : List String :=
  s.events.items.filterMap HostEvent.line? ++ s.pair.toHost.items

/-- The driver counted the signs of life and the calls among the lines `taken`, knows that the session is
ready if one says so, and had no reason to give up. -/
structure Counted (taken : List String) (d : Driver) : Prop where
  pongs : d.report.pongs = taken.countP (tells .pong)
  served : d.report.served = taken.countP (tells .hostCall)
  ready : ∀ line ∈ taken, tells .ready line = true → d.ready = true
  quiet : ∀ line ∈ taken, alarming line = false

/-- The lines of the frames `sent` are those that the driver took and those on their way. -/
structure Delivery (sent : List Frame) (s : System σ) : Prop where
  underway : ¬s.drive.Finished → ∃ taken, sent.map Frame.encode = taken ++ s.arriving ∧
    Counted taken s.driver ∧ ∀ line ∈ taken, tells .shutdownAck line = false
  finished : s.drive.Finished → s.script.Stops ∧ s.script.unwritten = [] ∧
    Counted (sent.map Frame.encode) s.driver ∧
    s.driver.report.acknowledged = s.dispatcher.phase.reason?

theorem filterMap_quiet {more : List HostEvent} (h : ∀ e ∈ more, e.line? = none) :
    more.filterMap HostEvent.line? = [] :=
  List.filterMap_eq_nil_iff.mpr h

theorem Counted.handle {taken : List String} {d : Driver} (h : Counted taken d) {e : HostEvent}
    (hf : ∀ f, (d.handle e).sequel ≠ .failed f) :
    Counted (taken ++ e.line?.toList) (d.handle e).next := by
  obtain ⟨hpongs, hserved⟩ := d.handle_counts e
  refine ⟨?_, ?_, ?_, ?_⟩
  · rw [hpongs, h.pongs, List.countP_append]
  · rw [hserved, h.served, List.countP_append]
  · intro line hl htells
    rw [d.handle_ready e]
    rcases List.mem_append.mp hl with hl | hl
    · rw [h.ready line hl htells, Bool.true_or]
    · rw [Option.mem_toList.mp hl, Option.any_some, htells, Bool.or_true]
  · intro line hl
    rcases List.mem_append.mp hl with hl | hl
    · exact h.quiet line hl
    · rw [Bool.eq_false_iff]
      intro halarm
      cases e with
      | frame text =>
        rw [List.mem_singleton.mp hl] at halarm
        obtain ⟨f, hfailed⟩ := Driver.handle_alarming halarm
        exact hf f hfailed
      | _ => cases hl

section

variable {sent : List Frame} {s : System σ}

/-- A side that did not fail goes on or stops. -/
theorem goes_or_stops (h : ¬s.Doomed) : s.script.Goes ∨ s.script.Stops := by
  cases hs : s.script with
  | reading => exact Or.inl trivial
  | writing frames v => exact (em (v = .stop)).symm
  | ended f =>
    cases f with
    | none => exact Or.inr rfl
    | some f => exact absurd (Or.inl ⟨f, hs⟩) h

/-- The acknowledgement is the last line to be taken. -/
theorem finished_of_shutdownAck (hspeech : Speech sent s.script s.dispatcher) (hs : ¬s.Doomed)
    {taken rest : List String} {line reason : String}
    (hsent : sent.map Frame.encode = taken ++ line :: rest)
    (hline : Frame.decode line = .shutdownAck reason) :
    s.dispatcher.phase = .shuttingDown reason ∧ rest = [] ∧ s.script.Stops ∧
      s.script.unwritten = [] := by
  obtain ⟨before, later, rfl, rfl, hlater⟩ := List.map_eq_append_iff.mp hsent
  obtain ⟨f, after, rfl, rfl, rfl⟩ := List.map_eq_cons_iff.mp hlater
  have hk : f.kind = .shutdownAck := by
    refine Frame.kind_of_tells_encode (by decide) (Frame.tells_iff.mpr ?_)
    rw [hline]
    rfl
  obtain ⟨reason', hphase, rfl, rfl, hstops, hnil⟩ :=
    hspeech.last_of_shutdownAck (goes_or_stops hs) rfl hk
  rw [Frame.decode_shutdownAck] at hline
  cases hline
  exact ⟨hphase, rfl, hstops, hnil⟩

/-- The driver does not hear that the session hung up before it took all lines. -/
theorem not_scriptClosed (hspeech : Speech sent s.script s.dispatcher) (hs : ¬s.Doomed)
    (hhear : Hearing s.script s.drive s.pair s.events) (h : Delivery sent s)
    (hd : ¬s.drive.Finished) {rest : List HostEvent} :
    s.events.items ≠ .scriptClosed :: rest := by
  intro hi
  obtain ⟨-, -, -, hclosed, horder⟩ := hhear
  rw [hi] at hclosed horder
  obtain ⟨⟨f, hf⟩, hnil, -⟩ := hclosed List.mem_cons_self
  have hnone : s.arriving = [] := by
    unfold arriving
    rw [hi, hnil, List.append_nil]
    refine filterMap_quiet (List.forall_mem_cons.mpr ⟨rfl, fun e he => ?_⟩)
    exact (List.pairwise_cons.mp horder).1 e he rfl
  obtain ⟨taken, hsent, -, hsilent⟩ := h.underway hd
  rw [hnone, List.append_nil] at hsent
  have hended : s.script = .ended none := by
    cases f with
    | none => exact hf
    | some f => exact absurd (Or.inl ⟨f, hf⟩) hs
  rw [hended] at hspeech
  obtain ⟨line, hl, htells⟩ := hspeech.exists_shutdownAck
  rw [hsilent line (hsent ▸ hl)] at htells
  cases htells

/-- The line of the oldest event is the first of those on their way. -/
theorem arriving_cons {e : HostEvent} {rest : List HostEvent} (h : s.events.items = e :: rest) :
    s.arriving = e.line?.toList ++ (rest.filterMap HostEvent.line? ++ s.pair.toHost.items) := by
  unfold arriving
  rw [h, List.filterMap_cons]
  cases e.line? <;> rfl

/-- An event takes a line from those on their way; the drive is over only with the last of them. -/
theorem Delivery.handle (h : Delivery sent s) (hspeech : Speech sent s.script s.dispatcher)
    (hhear : Hearing s.script s.drive s.pair s.events) (hs : ¬s.Doomed) {e : HostEvent}
    {rest : List HostEvent} (hd : s.drive = .waiting) (hi : s.events.items = e :: rest)
    (hf : ∀ f, (s.driver.handle e).sequel ≠ .failed f) :
    Delivery sent ({ s with events.items := rest }.react (s.driver.handle e)) := by
  have hopen : ¬s.drive.Finished := by
    rw [hd]
    exact id
  obtain ⟨taken, hsent, hcount, hsilent⟩ := h.underway hopen
  rw [arriving_cons hi, ← List.append_assoc] at hsent
  have hcount := hcount.handle hf
  refine ⟨fun hn => ⟨taken ++ e.line?.toList, hsent, hcount, ?_⟩, fun hf => ?_⟩
  · intro line hline
    rcases List.mem_append.mp hline with hline | hline
    · exact hsilent line hline
    · cases e with
      | frame text =>
        rw [List.mem_singleton.mp hline, Bool.eq_false_iff]
        exact fun htells => hn (Driver.handle_shutdownAck htells)
      | _ => cases hline
  -- of the two ends of a drive, only the acknowledgement can come while lines are on their way
  · rcases Driver.handle_done hf with rfl | ⟨line, reason, rfl, hline, hack⟩
    · exact absurd hi (not_scriptClosed hspeech hs hhear h hopen)
    · have hsplit : sent.map Frame.encode =
          taken ++ line :: (rest.filterMap HostEvent.line? ++ s.pair.toHost.items) := by
        rw [hsent, List.append_assoc]
        rfl
      obtain ⟨hphase, hrest, hstops, hnil⟩ := finished_of_shutdownAck hspeech hs hsplit hline
      refine ⟨hstops, hnil, ?_, ?_⟩
      · rw [hsent, hrest, List.append_nil]
        exact hcount
      · show (s.driver.handle (.frame line)).next.report.acknowledged = s.dispatcher.phase.reason?
        rw [hack, hphase]
        rfl

/-- Events that bring no line leave the lines on their way as they are. -/
theorem arriving_append_quiet {next : System σ} {more : List HostEvent}
    (hitems : next.events.items = s.events.items ++ more)
    (hlines : next.pair.toHost.items = s.pair.toHost.items) (hm : ∀ e ∈ more, e.line? = none) :
    next.arriving = s.arriving := by
  unfold arriving
  rw [hitems, hlines, List.filterMap_append, filterMap_quiet hm, List.append_nil]

/-- It does not matter where the lines on their way are. -/
theorem Delivery.reroute {p : Pair} {q : Queue HostEvent} {input : Option (List String)}
    (h : Delivery sent s)
    (ha : ¬s.drive.Finished →
      arriving { s with pair := p, events := q, input := input } = s.arriving) :
    Delivery sent { s with pair := p, events := q, input := input } := by
  refine ⟨fun hd => ?_, h.finished⟩
  obtain ⟨taken, hsent, hcount⟩ := h.underway hd
  exact ⟨taken, by rw [hsent, ha hd], hcount⟩

theorem Delivery.turn {o : Options} {next : System σ} {frames : List Frame}
    (hspeech : Speech sent s.script s.dispatcher)
    (hhear : Hearing s.script s.drive s.pair s.events) (h : Delivery sent s)
    (ht : Turn o s frames next) (hnext : ¬next.Doomed) : Delivery (sent ++ frames) next := by
  have hs : ¬s.Doomed := fun hd => hnext (hd.turn ht)
  have ⟨hunder, hfin⟩ := h
  cases ht with
  | @write f rest v hs =>
    refine ⟨fun hd => ?_, fun hd => ?_⟩
    · obtain ⟨taken, hsent, hcount⟩ := hunder hd
      refine ⟨taken, ?_, hcount⟩
      rw [List.map_append, hsent, List.append_assoc]
      unfold arriving
      rw [List.append_assoc]
      rfl
    · have hnil := (hfin hd).2.1
      rw [hs] at hnil
      cases hnil
  | listen hs hv =>
    rw [List.append_nil]
    refine ⟨hunder, fun hd => ?_⟩
    have hstop := (hfin hd).1
    rw [hs] at hstop
    exact absurd hstop hv
  | stop hs =>
    rw [List.append_nil]
    refine ⟨hunder, fun hd => ?_⟩
    obtain ⟨-, -, hcount⟩ := hfin hd
    exact ⟨rfl, rfl, hcount⟩
  | take hs =>
    rw [List.append_nil]
    refine ⟨hunder, fun hd => ?_⟩
    have hstop := (hfin hd).1
    rw [hs] at hstop
    exact hstop.elim
  | failScript => exact absurd (Or.inl ⟨_, rfl⟩) hnext
  | @forward line rest hi hopen he =>
    rw [List.append_nil]
    refine h.reroute fun _ => ?_
    unfold arriving
    rw [hi, List.filterMap_append, List.append_assoc]
    rfl
  | deafen hi he =>
    rw [List.append_nil]
    -- the line is lost, but the driver that went away was done
    refine h.reroute fun hd => ?_
    obtain ⟨f, hf⟩ := hhear.listener he
    cases f with
    | none =>
      refine absurd ?_ hd
      show s.drive.Finished
      rw [hf]
      rfl
    | some f => exact absurd (Or.inr (Or.inl ⟨f, hf⟩)) hs
  | hangUp hi hclosed hm =>
    rw [List.append_nil]
    refine h.reroute fun _ => arriving_append_quiet rfl rfl fun e he => ?_
    rcases hm with rfl | rfl
    · rw [List.mem_singleton.mp he]
      rfl
    · cases he
  | feed hi hm =>
    rw [List.append_nil]
    refine h.reroute fun _ => arriving_append_quiet rfl rfl fun e he => ?_
    rcases hm e he with ⟨line, rfl⟩ | rfl <;> rfl
  | handle hd hi =>
    rw [List.append_nil]
    refine h.handle hspeech hhear hs hd hi fun f hf => hnext (Or.inr (Or.inr ?_))
    exact ⟨_, f, congrArg (DriveStage.sending _) hf⟩
  | tick hd ht =>
    rw [List.append_nil]
    have hopen : ¬s.drive.Finished := by
      rw [hd]
      exact id
    obtain ⟨taken, hsent, hcount, hsilent⟩ := hunder hopen
    have hsteady := s.driver.steady_tick
    refine ⟨fun _ => ⟨taken, hsent, ⟨?_, ?_, ?_, hcount.quiet⟩, hsilent⟩, fun hf => ?_⟩
    · exact hsteady.pongs.trans hcount.pongs
    · exact hsteady.served.trans hcount.served
    · exact fun line hl htells => hsteady.ready.trans (hcount.ready line hl htells)
    · exact absurd (hsteady.sequel.symm.trans hf) Sequel.noConfusion
  | await hd =>
    rw [List.append_nil]
    have hopen : ¬s.drive.Finished := by
      rw [hd]
      exact Sequel.noConfusion
    exact ⟨fun _ => hunder hopen, nofun⟩
  | finish hd =>
    rw [List.append_nil]
    have hdone : s.drive.Finished := by
      rw [hd]
      rfl
    exact ⟨fun hn => absurd rfl hn, fun _ => hfin hdone⟩
  | failDrive => exact absurd (Or.inr (Or.inl ⟨_, rfl⟩)) hnext
  | send hd | drop hd =>
    rw [List.append_nil]
    rw [hd] at hunder hfin
    exact ⟨hunder, hfin⟩

end

/-! ## The first turns -/

/-- The system once the driver took the ready frame. -/
def announced (d : Dispatcher σ) (driver : Driver) (input : Option (List String)) : System σ :=
  { System.start d { driver with ready := true } input with framesOut := 1, script := .reading }

theorem follow_announced (d : Dispatcher σ) (o : Options) {driver : Driver}
    (hinput : driver.inputClosed = false) (input : Option (List String)) :
    (System.start d driver input).follow o [.session, .session, .frames, .driver, .driver] =
      some (announced d driver input) := by
  let s := System.start d driver input
  have hline : Frame.decode d.ready.encode = d.ready :=
    Frame.decode_encode_of_portable Frame.Kind.noConfusion
      (by simp [Frame.Portable, Dispatcher.ready, Frame.body])
  have hready : driver.handle (.frame d.ready.encode) = { next := { driver with ready := true } } := by
    show driver.onFrame d.ready.encode = _
    unfold Driver.onFrame
    rw [hline]
    simp [Dispatcher.ready, Driver.settle, hinput]
  have hfirst : s.follow o [.session, .session, .frames, .driver] =
      some ({ s with framesOut := 1, script := .reading }.react
        (driver.handle (.frame d.ready.encode))) := rfl
  rw [hready] at hfirst
  show s.follow o ([.session, .session, .frames, .driver] ++ [.driver]) = _
  rw [follow_append, hfirst]
  rfl

end System

namespace Launch

/-- A launch begins with a session that begins. -/
theorem start_eq_ok {settings : HostSettings} {parts : HostParts σ} {s : System σ} :
    Launch.start settings parts = .ok s ↔ ∃ d,
      (Dispatcher.bootstrap settings.seed ⟨parts.importer, settings.config.fallbackSegments⟩
        parts.memory).1 = .ok d ∧
      s = .start d (.start settings.config.driveMode parts.options parts.executor)
        (Launch.input settings.config parts) := by
  unfold Launch.start
  dsimp only
  constructor
  · intro h
    split at h
    · cases h
    · rename_i d hd
      cases h
      exact ⟨d, hd, rfl⟩
  · rintro ⟨d, hd, rfl⟩
    rw [hd]

end Launch

end ScriptLink
