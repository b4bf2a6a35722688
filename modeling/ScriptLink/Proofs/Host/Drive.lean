import ScriptLink.Host.Drive
import ScriptLink.Proofs.Frame.Portable

/-!
# ScriptLink.Proofs.Host.Drive — what a driver makes of an event

* `Frame.tells k` tells the lines that are decoded as frames of the kind `k`; `kind_of_tells_encode` has it
  that the line of a frame tells nothing else.
* `handle_counts`: the driver counts the lines it takes that are signs of life or calls; `handle_keeps`: it
  counts no ping then.
* `handle_done`: a drive is over when the session acknowledges a shutdown or hangs up after one;
  `handle_failed`: it is given up when the session tells of a failure or hangs up before.
* `Calm`, `tick_cases`: in the mode `oneshot` only the end of an interval brings about a ping or a
  shutdown. `Stops` is why it brings about a shutdown, and `tick_lines` has the lines of both cases.
-/

namespace ScriptLink

namespace Frame

/-- Whether a line is decoded as a frame of the given kind. -/
def tells (k : Kind) (line : String) : Bool := (decode line).kind == k

theorem tells_iff {k : Kind} {line : String} : tells k line = true ↔ (decode line).kind = k := by
  rw [tells, beq_iff_eq]

/-- A line of a frame that is decoded as one that means something is of that kind. -/
theorem kind_of_tells_encode {k : Kind} {f : Frame} (hk : k ≠ .unknown ∧ k ≠ .text)
    (h : tells k f.encode = true) : f.kind = k := by
  rw [tells_iff] at h
  rcases f.kind_decode_encode with hf | hf | hf
  · exact hf.symm.trans h
  · exact absurd (h.symm.trans hf) hk.1
  · exact absurd (h.symm.trans hf) hk.2

theorem tells_shutdownFor (k : Kind) (reason : String) :
    tells k (shutdownFor reason).encode = (Kind.shutdown == k) := by
  rw [tells, decode_shutdownFor]
  rfl

/-- Whether a driver gives up when it takes the line. -/
def alarming (line : String) : Bool := tells .error line || tells .loadError line

end Frame

namespace HostEvent

/-- The line of the session that an event brings. -/
def line? : HostEvent → Option String
  | .frame line => some line
  | _ => none

end HostEvent

namespace Driver

open ScriptLink.Frame (tells alarming)

/-! ## Counters -/

/-- The reaction takes no line of the session, and the drive goes on. -/
structure Steady (d : Driver) (r : Reaction) : Prop where
  ready : r.next.ready = d.ready
  pongs : r.next.report.pongs = d.report.pongs
  served : r.next.report.served = d.report.served
  sequel : r.sequel = .proceed

theorem steady_settle (d : Driver) : Steady d d.settle := by
  unfold settle
  split <;> exact ⟨rfl, rfl, rfl, rfl⟩

theorem steady_forward (line : String) (d : Driver) : Steady d (d.forward line) := by
  unfold forward
  dsimp only
  split <;> exact ⟨rfl, rfl, rfl, rfl⟩

theorem steady_tick (d : Driver) : Steady d d.tick := by
  unfold tick
  dsimp only
  split
  · exact ⟨rfl, rfl, rfl, rfl⟩
  · split <;> exact ⟨rfl, rfl, rfl, rfl⟩

/-- A driver counts the signs of life and the calls that it takes. -/
theorem handle_counts (e : HostEvent) (d : Driver) :
    (d.handle e).next.report.pongs = d.report.pongs + e.line?.toList.countP (tells .pong) ∧
    (d.handle e).next.report.served =
      d.report.served + e.line?.toList.countP (tells .hostCall) := by
  -- `settle` begins with a driver whose flags changed, but not its counts
  have hquiet : ∀ {c : Driver} {r : Reaction}, Steady c r →
      c.report.pongs = d.report.pongs → c.report.served = d.report.served →
      r.next.report.pongs = d.report.pongs ∧ r.next.report.served = d.report.served :=
    fun h hp hs => ⟨h.pongs.trans hp, h.served.trans hs⟩
  cases e with
  | frame line =>
    have hone (k : Frame.Kind) : [line].countP (tells k) =
        if (Frame.decode line).kind = k then 1 else 0 := by
      simp [List.countP_cons, tells]
    show (d.onFrame line).next.report.pongs = d.report.pongs + [line].countP (tells .pong) ∧
      (d.onFrame line).next.report.served = d.report.served + [line].countP (tells .hostCall)
    rw [hone, hone]
    unfold onFrame
    cases Frame.decode line with
    | ready c => exact hquiet (steady_settle _) rfl rfl
    | _ => exact ⟨rfl, rfl⟩
  | scriptClosed => exact ⟨rfl, rfl⟩
  | external line => exact hquiet (d.steady_forward line) rfl rfl
  | externalClosed => exact hquiet (steady_settle _) rfl rfl

/-- A driver knows that the session is ready once it took a line that says so. -/
theorem handle_ready (e : HostEvent) (d : Driver) :
    (d.handle e).next.ready = (d.ready || e.line?.any (tells .ready)) := by
  cases e with
  | frame line =>
    show (d.onFrame line).next.ready = (d.ready || (Frame.decode line).kind == .ready)
    unfold onFrame
    cases Frame.decode line with
    | ready c => exact (steady_settle _).ready.trans (Bool.or_true _).symm
    | _ => exact (Bool.or_false _).symm
  | scriptClosed => exact (Bool.or_false _).symm
  | external line => exact (d.steady_forward line).ready.trans (Bool.or_false _).symm
  | externalClosed => exact (steady_settle _).ready.trans (Bool.or_false _).symm

/-- No event changes the options or counts as a ping. -/
theorem handle_keeps (e : HostEvent) (d : Driver) :
    (d.handle e).next.options = d.options ∧
      (d.handle e).next.report.pings = d.report.pings := by
  have hsettle (c : Driver) :
      c.settle.next.options = c.options ∧ c.settle.next.report.pings = c.report.pings := by
    unfold settle
    split <;> exact ⟨rfl, rfl⟩
  cases e with
  | frame line =>
    show (d.onFrame line).next.options = _ ∧ (d.onFrame line).next.report.pings = _
    unfold onFrame
    cases Frame.decode line with
    | ready c => exact hsettle { d with ready := true }
    | _ => exact ⟨rfl, rfl⟩
  | scriptClosed => exact ⟨rfl, rfl⟩
  | external line =>
    show (d.forward line).next.options = _ ∧ (d.forward line).next.report.pings = _
    unfold forward
    dsimp only
    split <;> exact ⟨rfl, rfl⟩
  | externalClosed => exact hsettle { d with inputClosed := true }

/-! ## The end -/

/-- What ends a drive in good order. -/
theorem handle_done {e : HostEvent} {d : Driver} (h : (d.handle e).sequel = .done) :
    e = .scriptClosed ∨ ∃ line reason, e = .frame line ∧ Frame.decode line = .shutdownAck reason ∧
      (d.handle e).next.report.acknowledged = some reason := by
  cases e with
  | frame line =>
    refine Or.inr ⟨line, ?_⟩
    show ∃ reason, _ ∧ _ ∧ (d.onFrame line).next.report.acknowledged = _
    have h : (d.onFrame line).sequel = .done := h
    unfold onFrame at h ⊢
    generalize Frame.decode line = f at h ⊢
    cases f with
    | shutdownAck reason => exact ⟨reason, rfl, rfl, rfl⟩
    | ready c => exact absurd ((steady_settle _).sequel.symm.trans h) Sequel.noConfusion
    | _ => cases h
  | scriptClosed => exact Or.inl rfl
  | external line => cases h
  | externalClosed => exact absurd ((steady_settle _).sequel.symm.trans h) Sequel.noConfusion

/-- The acknowledgement of a shutdown ends a drive. -/
theorem handle_shutdownAck {line : String} {d : Driver} (h : tells .shutdownAck line = true) :
    (d.handle (.frame line)).sequel = .done := by
  rw [Frame.tells_iff] at h
  show (d.onFrame line).sequel = .done
  unfold onFrame
  generalize Frame.decode line = f at h ⊢
  cases f with
  | shutdownAck reason => rfl
  | _ => cases h

/-- Why a driver gives up at an event. -/
theorem handle_failed {e : HostEvent} {d : Driver} {f : DriveFault}
    (h : (d.handle e).sequel = .failed f) :
    e = .scriptClosed ∨ ∃ line, e = .frame line ∧ alarming line = true := by
  cases e with
  | frame line =>
    refine Or.inr ⟨line, rfl, ?_⟩
    have h : (d.onFrame line).sequel = .failed f := h
    unfold onFrame at h
    unfold alarming tells
    generalize Frame.decode line = g at h
    cases g with
    | error | loadError => rfl
    | ready c => exact absurd ((steady_settle _).sequel.symm.trans h) Sequel.noConfusion
    | _ => cases h
  | scriptClosed => exact Or.inl rfl
  | external line => cases h
  | externalClosed => exact absurd ((steady_settle _).sequel.symm.trans h) Sequel.noConfusion

theorem handle_alarming {line : String} {d : Driver} (h : alarming line = true) :
    ∃ f, (d.handle (.frame line)).sequel = .failed f := by
  show ∃ f, (d.onFrame line).sequel = .failed f
  unfold alarming tells at h
  unfold onFrame
  generalize Frame.decode line = g at h ⊢
  cases g with
  | error | loadError => exact ⟨_, rfl⟩
  | _ => cases h

/-! ## One shot -/

/-- The reaction leaves the progress of a drive as it is, and sends no ping and no shutdown. -/
structure Calm (d : Driver) (r : Reaction) : Prop where
  mode : r.next.mode = d.mode
  options : r.next.options = d.options
  inputClosed : r.next.inputClosed = d.inputClosed
  shutdown : r.next.shutdown = d.shutdown
  pings : r.next.report.pings = d.report.pings
  reason : r.next.report.reason = d.report.reason
  sends : ∀ o ∈ r.sends, tells .ping o.line = false ∧ tells .shutdown o.line = false

theorem Calm.tells_ping {d : Driver} {r : Reaction} (h : Calm d r) :
    ∀ line ∈ r.sends.map Outgoing.line, tells .ping line = false := by
  intro line hl
  obtain ⟨o, ho, rfl⟩ := List.mem_map.mp hl
  exact (h.sends o ho).1

theorem Calm.tells_shutdown {d : Driver} {r : Reaction} (h : Calm d r) :
    ∀ line ∈ r.sends.map Outgoing.line, tells .shutdown line = false := by
  intro line hl
  obtain ⟨o, ho, rfl⟩ := List.mem_map.mp hl
  exact (h.sends o ho).2

theorem kind_answer (executor : HostCall.Executor) (id payload : Value) :
    (answer executor id payload).kind = .hostResult ∨
      (answer executor id payload).kind = .hostError := by
  unfold answer
  split
  · exact Or.inl rfl
  · exact Or.inr rfl

/-- The answer to a call is neither a ping nor a shutdown. -/
theorem tells_answer (executor : HostCall.Executor) (id payload : Value) {k : Frame.Kind}
    (hk : k = .ping ∨ k = .shutdown) : tells k (answer executor id payload).encode = false := by
  rw [Bool.eq_false_iff]
  intro h
  have hkind := kind_answer executor id payload
  have hk' : (answer executor id payload).kind = k := by
    refine Frame.kind_of_tells_encode ?_ h
    rcases hk with rfl | rfl <;> decide
  rw [hk'] at hkind
  rcases hk with rfl | rfl <;> rcases hkind with h | h <;> cases h

/-- While no external input is closed, what a session writes changes nothing about the progress. -/
theorem calm_handle {e : HostEvent} {d : Driver} (hd : d.inputClosed = false)
    (he : e = .scriptClosed ∨ e.line? ≠ none) : Calm d (d.handle e) := by
  have hnone : ∀ o ∈ ([] : List Outgoing), tells .ping o.line = false ∧
      tells .shutdown o.line = false := nofun
  cases e with
  | frame line =>
    show Calm d (d.onFrame line)
    unfold onFrame
    cases Frame.decode line with
    | ready c =>
      have hs : settle { d with ready := true } = { next := { d with ready := true } } := by
        unfold settle
        simp [hd]
      dsimp only
      rw [hs]
      exact ⟨rfl, rfl, rfl, rfl, rfl, rfl, hnone⟩
    | hostCall id payload =>
      refine ⟨rfl, rfl, rfl, rfl, rfl, rfl, ?_⟩
      intro o ho
      rw [List.mem_singleton.mp ho]
      exact ⟨tells_answer _ _ _ (.inl rfl), tells_answer _ _ _ (.inr rfl)⟩
    | _ => exact ⟨rfl, rfl, rfl, rfl, rfl, rfl, hnone⟩
  | scriptClosed => exact ⟨rfl, rfl, rfl, rfl, rfl, rfl, hnone⟩
  | external line => simp [HostEvent.line?] at he
  | externalClosed => simp [HostEvent.line?] at he

/-- Whether the session is ready and gave enough signs of life. -/
def satisfied (d : Driver) : Bool := d.ready && d.options.pongTarget ≤ d.report.pongs

/-- Why the end of an interval brings about a shutdown. -/
inductive Stops (d : Driver) : String → Prop where
  | completed (h : d.satisfied = true) : Stops d completedReason
  | timeout (h : d.satisfied = false) (hpings : d.options.maxPings ≤ d.report.pings + 1) :
      Stops d timeoutReason

/-- The end of an interval brings about a ping, and a shutdown besides when it is time for one. -/
theorem tick_cases (d : Driver) :
    (d.tick.next = { d with report.pings := d.report.pings + 1 } ∧
      d.tick.sends = [d.outgoing (pingLine (d.report.pings + 1))] ∧
      d.report.pings + 1 < d.options.maxPings) ∨
    ∃ reason, Stops d reason ∧
      d.tick.next = { d with
        shutdown := true
        report := { d.report with pings := d.report.pings + 1, reason := some reason } } ∧
      d.tick.sends = [d.outgoing (pingLine (d.report.pings + 1)),
        ⟨(Frame.shutdownFor reason).encode, false⟩] := by
  unfold tick
  dsimp only
  split
  · rename_i h
    exact Or.inr ⟨completedReason, .completed h, rfl, rfl⟩
  · rename_i hs
    split
    · rename_i h
      exact Or.inr ⟨timeoutReason, .timeout (Bool.eq_false_iff.mpr hs) h, rfl, rfl⟩
    · rename_i h
      exact Or.inl ⟨rfl, rfl, Nat.not_le.mp h⟩

theorem tick_settings (d : Driver) :
    d.tick.next.inputClosed = d.inputClosed ∧ d.tick.next.options = d.options := by
  rcases d.tick_cases with ⟨h, -, -⟩ | ⟨reason, -, h, -⟩ <;> rw [h] <;> exact ⟨rfl, rfl⟩

theorem tick_pings (d : Driver) : d.tick.next.report.pings = d.report.pings + 1 := by
  rcases d.tick_cases with ⟨h, -, -⟩ | ⟨reason, -, h, -⟩ <;> rw [h]

/-- The line that follows the ping at the end of an interval, if there is one. -/
theorem tick_lines (d : Driver) : ∃ rest : List String,
    d.tick.sends.map Outgoing.line = pingLine (d.report.pings + 1) :: rest ∧ rest.length ≤ 1 ∧
      (∀ line ∈ rest, d.tick.next.shutdown = true ∧
        ∃ reason, Stops d reason ∧ line = (Frame.shutdownFor reason).encode) ∧
      (d.tick.next.shutdown = false → d.report.pings + 1 < d.options.maxPings) := by
  rcases d.tick_cases with ⟨hnext, hsends, hlt⟩ | ⟨reason, hstops, hnext, hsends⟩
  · rw [hsends]
    exact ⟨[], rfl, Nat.zero_le _, nofun, fun _ => hlt⟩
  · rw [hsends, hnext]
    refine ⟨[(Frame.shutdownFor reason).encode], rfl, Nat.le_refl _, ?_, nofun⟩
    intro line hline
    exact ⟨rfl, reason, hstops, List.mem_singleton.mp hline⟩

theorem shutdown_of_ticking {d : Driver} (h : d.ticking = true) : d.shutdown = false := by
  have h := (Bool.and_eq_true_iff.mp h).2
  rwa [Bool.not_eq_true'] at h

/-- The line of a ping is one, as long as its number is a word. -/
theorem tells_pingLine {seq : Nat} (h : seq < 18446744073709551616) :
    tells .ping (pingLine seq) = true := by
  have hv : Value.object [("type", .str Frame.Kind.ping.name), ("seq", .ofNat seq),
      ("from", .str "rust")] =
      .obj [("from", .str "rust"), ("seq", .ofNat seq), ("type", .str Frame.Kind.ping.name)] := by
    have hseq : "seq" < "type" := by decide
    have hfrom : "from" < "seq" := by decide
    unfold Value.object
    simp only [List.foldl_cons, List.foldl_nil, Value.insertMember, if_pos hseq, if_pos hfrom]
  have hfits : Number.Fits seq := by
    unfold Number.Fits
    omega
  have hl : ∀ m ∈ [("from", Value.str "rust"), ("seq", .ofNat seq),
      ("type", .str Frame.Kind.ping.name)], m.2.Legible := by
    simp only [List.forall_mem_cons]
    exact ⟨rfl, Value.legible_num (Number.reread_int hfits), rfl, List.forall_mem_nil _⟩
  have ht : Frame.receivedType (.object (Value.canonicalMembers [("from", Value.str "rust"),
      ("seq", .ofNat seq), ("type", .str Frame.Kind.ping.name)])) = .str Frame.Kind.ping.name := by
    unfold Frame.receivedType Frame.freeOrNull
    rw [Value.get?_object]
    rfl
  have hd : (Value.obj [("from", .str "rust"), ("seq", .ofNat seq),
      ("type", .str Frame.Kind.ping.name)]).depth ≤ 127 := by
    simp [Value.depth, Value.depthOfMembers, Value.ofNat]
  unfold pingLine
  rw [Frame.tells_iff, hv, Frame.decode_obj, if_pos hd, Value.rereadMembers_of_legible hl]
  unfold Frame.ofValue
  dsimp only
  rw [ht]
  dsimp only
  rw [Frame.Kind.ofName?_name]
  rfl

theorem tells_shutdown_pingLine {seq : Nat} (h : seq < 18446744073709551616) :
    tells .shutdown (pingLine seq) = false := by
  have hp := Frame.tells_iff.mp (tells_pingLine h)
  rw [Bool.eq_false_iff]
  intro hs
  rw [Frame.tells_iff.mp hs] at hp
  cases hp

end Driver

end ScriptLink
