import ScriptLink.Proofs.Launch.Foresight

/-!
# ScriptLink.Proofs.Launch.Termination — a launch does not go on for ever

Without pings, all that happens in a launch comes of the external input, of the lines on their way and of
the frames that are about to be written.

* `System.stock`: how many lines there are left that mean something to the session.
* `System.labour`: how many moves what is on its way can bring about before the session takes such a line.
  A line of the session that is a call, or says that the session is ready, can bring about one of the
  driver; a line that means nothing to the session brings about at most one frame, which is no call.
* `Turn.lessens`: every turn lessens the stock, or else the labour. So no interleaving goes on for ever
  (`exists_blocked`).
-/

namespace ScriptLink

open ScriptLink.Frame (tells idle forwarded)

/-! ## Labour -/

namespace Frame

/-- Whether a driver may send a line when it takes this one. -/
def answered (line : String) : Bool := tells .hostCall line || tells .ready line

theorem answered_unknown (v : Value) : answered (unknown v).encode = false := by
  have hnot {k : Kind} (hk : k ≠ .unknown ∧ k ≠ .text) : tells k (unknown v).encode = false := by
    rw [Bool.eq_false_iff]
    exact fun h => hk.1 (kind_of_tells_encode hk h).symm
  rw [answered, hnot (by decide), hnot (by decide)]
  rfl

end Frame

open ScriptLink.Frame (answered)

/-- Taking an event is two moves; the line that may come of it is seven. -/
def HostEvent.labour : HostEvent → Nat
  | .frame line => if answered line then 9 else 2
  | .scriptClosed => 2
  | .external _ => 9
  | .externalClosed => 9

/-- An event comes of a line one move later. -/
def lineLabour (line : String) : Nat := (HostEvent.frame line).labour + 1

/-- The moves that a stage of the session thread can still bring about. -/
def ScriptStage.labour : ScriptStage → Nat
  | .writing frames _ => (frames.map fun f => lineLabour f.encode + 1).sum + 2
  | .reading => 1
  | .ended _ => 0

/-- The moves that a stage of the driver can still bring about. -/
def DriveStage.labour : DriveStage → Nat
  | .waiting => 1
  | .sending lines _ => 7 * lines.length + 2
  | .ended _ => 0

/-- The moves that lines of external input can still bring about. -/
def inputLabour : Option (List String) → Nat
  | some lines => 10 * (lines.length + 1)
  | none => 0

theorem Driver.handle_labour (e : HostEvent) (d : Driver) :
    7 * (d.handle e).sends.length + 2 ≤ e.labour := by
  have hsettle (d : Driver) : 7 * d.settle.sends.length + 2 ≤ 9 := by
    unfold settle
    split <;> simp [requestShutdown]
  cases e with
  | frame line =>
    have hlabour : (HostEvent.frame line).labour = if answered line then 9 else 2 := rfl
    show 7 * (d.onFrame line).sends.length + 2 ≤ _
    rw [hlabour]
    unfold onFrame answered tells
    cases Frame.decode line with
    | ready c => exact hsettle _
    | hostCall id payload => exact Nat.le_refl 9
    | _ => exact Nat.le_refl 2
  | scriptClosed => exact Nat.le_refl 2
  | external line => exact Nat.le_refl 9
  | externalClosed => exact hsettle _

namespace System

/-- The moves that may come of what is on its way. -/
def labour (s : System σ) : Nat :=
  s.script.labour + (s.pair.toHost.items.map lineLabour).sum +
    3 * s.pair.toHost.receiverOpen.toNat + (s.events.items.map HostEvent.labour).sum +
    inputLabour s.input + 6 * s.pair.toScript.items.length + s.drive.labour

/-- The lines that mean something to the session, the shutdown at the end of external input included. -/
def stock (s : System σ) : Nat :=
  (busy (s.departing ++ s.incoming.map forwarded)).length + (!s.driver.shutdown).toNat

section

variable {o : Options} {frames : List Frame} {s next : System σ}

/-- There is less to do. -/
def Lessens (next s : System σ) : Prop :=
  next.stock < s.stock ∨ next.stock ≤ s.stock ∧ next.labour < s.labour

theorem length_busy_le {xs ys : List String} (h : xs.Sublist ys) :
    (busy xs).length ≤ (busy ys).length :=
  (h.filter _).length_le

theorem stock_le (hd : next.departing.Sublist s.departing) (hi : next.incoming.Sublist s.incoming)
    (hs : next.driver.shutdown = s.driver.shutdown) : next.stock ≤ s.stock := by
  have hlines := length_busy_le (hd.append (hi.map forwarded))
  unfold stock
  rw [hs]
  omega

/-- It is enough to lessen the labour where the session has no more to take than before. -/
theorem lessens_of_labour (hd : next.departing.Sublist s.departing)
    (hi : next.incoming = s.incoming) (hs : next.driver.shutdown = s.driver.shutdown)
    (hl : next.labour < s.labour) : Lessens next s :=
  Or.inr ⟨stock_le hd (by rw [hi]) hs, hl⟩

/-- The session takes a line that means something to it, or else has little to say. -/
theorem lessens_take (htame : s.dispatcher.Tame) {line : String} {rest : List String}
    (hs : s.script = .reading) (hi : s.pair.toScript.items = line :: rest) :
    Lessens ({ s with pair.toScript.items := rest }.takeLine o line) s := by
  have hdep : s.departing = line :: (rest ++ s.drive.unsent) := by
    unfold departing
    rw [hi, List.cons_append]
  by_cases hl : idle line = true
  · refine lessens_of_labour ?_ rfl rfl ?_
    · rw [hdep]
      exact List.sublist_cons_self _ _
    · obtain ⟨-, hreplies, -⟩ := htame.dispatch_idle hl (o.clock s.framesIn)
      have hshort : ((s.dispatcher.dispatch (o.clock s.framesIn) (Frame.decode line)).replies.map
          fun f => lineLabour f.encode + 1).sum ≤ 4 := by
        rcases hreplies with hr | ⟨v, hr⟩ <;> rw [hr]
        · exact Nat.zero_le 4
        · simp [lineLabour, HostEvent.labour, Frame.answered_unknown]
      simp only [labour, takeLine, hs, hi, ScriptStage.labour, List.length_cons]
      omega
  · have hl : idle line = false := Bool.eq_false_iff.mpr hl
    left
    unfold stock busy
    rw [hdep, List.cons_append, List.filter_cons_of_pos (by rw [hl]; rfl), List.length_cons,
      Nat.add_right_comm]
    exact Nat.lt_succ_self _

/-- Taking an event, the driver gives the session no more to take than was foreseen. -/
theorem stock_handle {e : HostEvent} {rest : List HostEvent} (hd : s.drive = .waiting)
    (hi : s.events.items = e :: rest) :
    stock ({ s with events.items := rest }.react (s.driver.handle e)) ≤ s.stock := by
  let next := { s with events.items := rest }.react (s.driver.handle e)
  let sends := (s.driver.handle e).sends.map Outgoing.line
  have hforwards := s.driver.forwards_handle e
  have hdep : s.departing = s.pair.toScript.items := departing_waiting (by rw [hd]; rfl)
  have hincoming : s.incoming = e.external?.toList ++ next.incoming := incoming_cons hi
  have hshutdown : (!next.driver.shutdown).toNat ≤ (!s.driver.shutdown).toNat := by
    rw [show next.driver.shutdown = _ from hforwards.shutdown]
    cases s.driver.shutdown with
    | true => exact Nat.le_refl 0
    | false => exact Bool.toNat_le _
  show (busy (s.pair.toScript.items ++ sends ++ next.incoming.map forwarded)).length +
    (!next.driver.shutdown).toNat ≤ _
  unfold stock
  rw [hdep, hincoming]
  rcases hforwards.sends with ⟨line, he, hl⟩ | ⟨he, hl | ⟨hl, -, hs⟩⟩
  · have hsends : sends = [forwarded line] := hl
    rw [Option.mem_def.mp he, hsends]
    simpa using hshutdown
  · have hsends : busy sends = [] := busy_eq_nil hl
    simpa [he, busy_append, hsends] using hshutdown
  · have hsends : sends = [Driver.closing] := hl
    have hasked : next.driver.shutdown = true := by
      have htells : ((s.driver.handle e).sends.map Outgoing.line).any (tells .shutdown) = true := by
        rw [hl, List.any_cons, Driver.tells_closing, Bool.true_or]
      rw [List.any_map] at htells
      rw [show next.driver.shutdown = _ from hforwards.shutdown]
      exact Bool.or_eq_true_iff.mpr (Or.inr htells)
    rw [he, hsends, hasked, hs, Option.toList_none, List.nil_append, busy_append, busy_append,
      busy_closing, busy_append s.pair.toScript.items]
    simp only [List.length_append, List.length_singleton, Bool.not_true, Bool.not_false,
      Bool.toNat_true, Bool.toNat_false]
    omega

/-- Whatever event the driver takes, it has less to do. -/
theorem lessens_handle {e : HostEvent} {rest : List HostEvent} (hd : s.drive = .waiting)
    (hi : s.events.items = e :: rest) :
    Lessens ({ s with events.items := rest }.react (s.driver.handle e)) s := by
  refine Or.inr ⟨stock_handle hd hi, ?_⟩
  have hevent := s.driver.handle_labour e
  have hsending (r : Reaction) :
      (DriveStage.sending r.sends r.sequel).labour = 7 * r.sends.length + 2 := rfl
  have hwaiting : s.drive.labour = 1 := by
    rw [hd]
    rfl
  simp only [labour, react, hsending, hwaiting, hi, List.map_cons, List.sum_cons]
  omega

theorem lessens_feed {input : Option (List String)} {more : List HostEvent} (hi : s.input ≠ none)
    (hf : Feeds s input more) :
    Lessens { s with input := input, events.items := s.events.items ++ more } s := by
  cases hf with
  | pass hi he =>
    refine lessens_of_labour (.refl _) ?_ rfl ?_
    · unfold incoming
      rw [hi, List.filterMap_append, List.append_assoc]
      rfl
    · simp only [labour, hi, inputLabour, HostEvent.labour, List.map_append, List.sum_append,
        List.map_cons, List.sum_cons, List.map_nil, List.sum_nil, List.length_cons]
      omega
  | close hi he =>
    refine lessens_of_labour (.refl _) ?_ rfl ?_
    · unfold incoming
      rw [hi, List.filterMap_append, List.append_assoc]
      rfl
    · simp only [labour, hi, inputLabour, HostEvent.labour, List.map_append, List.sum_append,
        List.map_cons, List.sum_cons, List.map_nil, List.sum_nil, List.length_nil]
      omega
  | leave he =>
    obtain ⟨lines, hlines⟩ := Option.ne_none_iff_exists'.mp hi
    refine Or.inr ⟨stock_le (.refl _) ?_ rfl, ?_⟩
    · unfold incoming
      rw [List.append_nil]
      exact (List.Sublist.refl _).append (List.nil_sublist _)
    · simp only [labour, hlines, inputLabour, List.append_nil]
      omega

/-- What the driver did not send is not sent any more once the drive is over. -/
theorem departing_endDrive_sublist (f : Option DriveFault) :
    (s.endDrive f).departing.Sublist s.departing :=
  (List.Sublist.refl _).append (List.nil_sublist _)

theorem labour_endDrive (hd : ∀ g, s.drive ≠ .ended g) (f : Option DriveFault) :
    (s.endDrive f).labour < s.labour := by
  have hpos : 0 < s.drive.labour := by
    cases hdrive : s.drive with
    | waiting => exact Nat.one_pos
    | sending => exact Nat.succ_pos _
    | ended g => exact absurd hdrive (hd g)
  have hzero : (DriveStage.ended f).labour = 0 := rfl
  simp only [labour, endDrive, hzero, Pair.hostCloseSender, Queue.closeSender, Queue.closeReceiver]
  omega

theorem Turn.lessens (htame : s.dispatcher.Tame) (hmode : s.driver.mode = .persistent)
    (ht : Turn o s frames next) : Lessens next s := by
  cases ht with
  | write hs hopen =>
    refine lessens_of_labour (.refl _) rfl rfl ?_
    simp only [labour, hs, ScriptStage.labour, List.map_append, List.sum_append, List.map_cons,
      List.sum_cons, List.map_nil, List.sum_nil]
    omega
  | listen hs =>
    refine lessens_of_labour (.refl _) rfl rfl ?_
    simp only [labour, hs, ScriptStage.labour]
    omega
  | stop hs =>
    refine lessens_of_labour (.refl _) rfl rfl ?_
    simp only [labour, hs, ScriptStage.labour, endScript, Pair.close, Queue.closeSender,
      Queue.closeReceiver]
    omega
  | take hs hi => exact lessens_take htame hs hi
  | failScript hs hf =>
    refine lessens_of_labour (.refl _) rfl rfl ?_
    have hpos : 0 < s.script.labour := by
      cases hscript : s.script with
      | writing => exact Nat.succ_pos _
      | reading => exact Nat.one_pos
      | ended g => exact absurd hscript (hs g)
    have hzero {f : Option SessionFault} : (ScriptStage.ended f).labour = 0 := rfl
    simp only [labour, endScript, hzero, Pair.close, Queue.closeSender, Queue.closeReceiver]
    omega
  | forward hi hopen he =>
    refine lessens_of_labour (.refl _) (incoming_append_quiet rfl rfl ?_) rfl ?_
    · exact List.forall_mem_singleton.mpr rfl
    · simp only [labour, hi, lineLabour, List.map_append, List.sum_append, List.map_cons,
        List.sum_cons, List.map_nil, List.sum_nil]
      omega
  | deafen hi he =>
    refine lessens_of_labour (.refl _) rfl rfl ?_
    have hle : Bool.toNat false ≤ s.pair.toHost.receiverOpen.toNat := Nat.zero_le _
    simp only [labour, hi, lineLabour, List.map_cons, List.sum_cons]
    omega
  | hangUp hi hs hm hopen =>
    have hone : s.pair.toHost.receiverOpen.toNat = 1 := by rw [hopen]; rfl
    have hzero : Bool.toNat false = 0 := rfl
    rcases hm with rfl | rfl
    · refine lessens_of_labour (.refl _) (incoming_append_quiet rfl rfl ?_) rfl ?_
      · exact List.forall_mem_singleton.mpr rfl
      · simp only [labour, hone, hzero, HostEvent.labour, List.map_append, List.sum_append,
          List.map_cons, List.sum_cons, List.map_nil, List.sum_nil]
        omega
    · refine lessens_of_labour (.refl _) (incoming_append_quiet rfl rfl nofun) rfl ?_
      simp only [labour, hone, hzero, List.append_nil]
      omega
  | feed hi hm hf => exact lessens_feed hi hf
  | handle hd hi => exact lessens_handle hd hi
  | tick hd ht => exact absurd ht (Driver.not_ticking hmode)
  | await hd =>
    have hdep : s.departing = s.pair.toScript.items ++ [] := by
      unfold departing
      rw [hd]
      rfl
    refine lessens_of_labour (by rw [hdep]; exact .refl _) rfl rfl ?_
    simp only [labour, hd, DriveStage.labour]
    omega
  | finish hd =>
    refine lessens_of_labour (departing_endDrive_sublist _) rfl rfl ?_
    exact labour_endDrive (by simp [hd]) _
  | failDrive hd hf =>
    refine lessens_of_labour (departing_endDrive_sublist _) rfl rfl ?_
    exact labour_endDrive hd _
  | send hd hopen =>
    refine lessens_of_labour ?_ rfl rfl ?_
    · unfold departing
      rw [hd, List.append_assoc]
      exact .refl _
    · simp only [labour, hd, DriveStage.labour, List.length_append, List.length_cons, List.length_nil]
      omega
  | drop hd hclosed hl =>
    refine lessens_of_labour ?_ rfl rfl ?_
    · unfold departing
      rw [hd]
      exact (List.Sublist.refl _).append (List.sublist_cons_self _ _)
    · simp only [labour, hd, DriveStage.labour, List.length_cons]
      omega

theorem Turn.tame (h : s.dispatcher.Tame) (ht : Turn o s frames next) : next.dispatcher.Tame := by
  cases ht with
  | take => exact h.dispatch _ _
  | _ => exact h

theorem Turn.persistent (h : s.driver.mode = .persistent) (ht : Turn o s frames next) :
    next.driver.mode = .persistent := by
  cases ht with
  | handle => exact (s.driver.forwards_handle _).mode.trans h
  | tick hd ht => exact absurd ht (Driver.not_ticking h)
  | _ => exact h

end

/-- No schedule goes on for ever. -/
theorem exists_blocked {o : Options} {s : System σ} (htame : s.dispatcher.Tame)
    (hmode : s.driver.mode = .persistent) (schedule : Nat → Move) :
    ∃ n, s.follow o ((List.range n).map schedule) = none := by
  cases hm : s.step o (schedule 0) with
  | none =>
    refine ⟨1, ?_⟩
    show (s.step o (schedule 0)).bind _ = none
    rw [hm, Option.bind_none]
  | some next =>
    have ht := turn_of_step hm
    have hless := ht.lessens htame hmode
    obtain ⟨n, hn⟩ := exists_blocked (ht.tame htame) (ht.persistent hmode) (schedule ∘ Nat.succ)
    refine ⟨n + 1, ?_⟩
    rw [List.range_succ_eq_map, List.map_cons, List.map_map]
    show (s.step o (schedule 0)).bind _ = none
    rw [hm, Option.bind_some]
    exact hn
termination_by (s.stock, s.labour)
decreasing_by
  rcases hless with hless | ⟨hle, hless⟩
  · exact Prod.Lex.left _ _ hless
  · rcases Nat.lt_or_eq_of_le hle with hlt | heq
    · exact Prod.Lex.left _ _ hlt
    · rw [heq]
      exact Prod.Lex.right _ hless

end System

end ScriptLink
