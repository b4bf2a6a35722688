import ScriptLink.Proofs.Host.Persistent

/-!
# ScriptLink.Proofs.Host.OneShot — what a drive with pings never does

* A `Drive` is a driver to which intervals end and events come in any order (`Drive.follow`), while the
  other side takes its lines or hangs up at some point. It keeps all that was sent, each line with the
  occasions before it.
* `Drive.Safe` is what holds of all that was sent: how the pings are numbered and how many there are, what
  does not follow a shutdown, and when the host may say that it has enough or that it waited long enough.
* `Informed` says what a driver knows of the occasions before, `Fits` what it sends at one. Both hold at
  the end of an interval and at an event, so that `Kept` is kept by a step (`Kept.step`) and by a whole
  drive (`Kept.follow`). `follow_safe` puts these together.
* `run_eq_follow`: every rehearsal is such a drive.
-/

namespace ScriptLink

open ScriptLink.Frame (tells idle forwarded)

/-! ## Drives -/

/-- What a driver reacts to. -/
inductive Occasion where
  | tick
  | event (e : HostEvent)
  deriving DecidableEq, Repr, Inhabited

namespace Occasion

/-- The line of the session that an occasion brings. -/
def line? : Occasion → Option String
  | tick => none
  | event e => e.line?

/-- What a driver sends at the occasion is not external input. -/
def own : Occasion → Bool
  | event (.external _) => false
  | _ => true

end Occasion

/-- A line that is sent at an occasion, after those of the past. -/
structure Sending where
  past : List Occasion
  occasion : Occasion
  line : String
  deriving DecidableEq, Repr, Inhabited

/-- A driver to which intervals end and events come in any order. -/
structure Drive where
  driver : Driver
  /-- How many lines are received until the receiver hangs up; without it, all of them. -/
  room : Option Nat
  past : List Occasion
  /-- The lines that were sent, whether or not they were received. -/
  sent : List Sending
  /-- How the drive ended. -/
  ending : Option (Option DriveFault)

/-- How the drive ends with the reaction, if it does, given whether it could go on after the lines. -/
def Reaction.ending (r : Reaction) (goes : Bool) : Option (Option DriveFault) :=
  match goes, r.sequel with
  | false, _ => some (some .channelClosed)
  | true, .proceed => none
  | true, .done => some none
  | true, .failed f => some (some f)

namespace Drive

/-- What a drive is before anything happened. -/
def start (options : DriveOptions) (executor : HostCall.Executor) (room : Option Nat) : Drive :=
  ⟨.start .oneshot options executor, room, [], [], none⟩

/-- Whether the next line will be received. -/
def receiving (s : Drive) : Bool := s.room.all (s.sent.length < ·)

/-- Sends lines in turn: whether the drive can go on. -/
def sendAll (o : Occasion) : List Outgoing → Drive → Bool × Drive
  | [], s => (true, s)
  | out :: rest, s =>
    let after := { s with sent := s.sent ++ [⟨s.past, o, out.line⟩] }
    if s.receiving || !out.required then sendAll o rest after else (false, after)

def react (o : Occasion) (r : Reaction) (s : Drive) : Drive :=
  let gone := sendAll o r.sends { s with driver := r.next }
  { gone.2 with past := s.past ++ [o], ending := r.ending gone.1 }

/-- An interval ends only while the driver waits for that. -/
def step (o : Occasion) (s : Drive) : Option Drive :=
  match s.ending, o with
  | some _, _ => none
  | none, .tick => if s.driver.ticking then some (s.react .tick s.driver.tick) else none
  | none, .event e => some (s.react (.event e) (s.driver.handle e))

/-- The drive after occasions, if each of them can come. -/
def follow : List Occasion → Drive → Option Drive
  | [], s => some s
  | o :: rest, s => (s.step o).bind (follow rest)

/-! ## What is sent -/

/-- A ready frame and enough signs of life are among the occasions. -/
def satisfied (options : DriveOptions) (past : List Occasion) : Bool :=
  (past.filterMap Occasion.line?).any (tells .ready) &&
    options.pongTarget ≤ (past.filterMap Occasion.line?).countP (tells .pong)

/-- When the host may say that it has enough, and when that it waited long enough. -/
structure Lawful (options : DriveOptions) (x : Sending) : Prop where
  completed : x.occasion.own = true →
    Driver.stopReason? x.line = some (some Driver.completedReason) →
    x.occasion = .tick ∧ satisfied options x.past = true
  timeout : x.occasion.own = true →
    Driver.stopReason? x.line = some (some Driver.timeoutReason) →
    x.occasion = .tick ∧ satisfied options x.past = false ∧
      options.maxPings ≤ (x.past ++ [x.occasion]).count .tick

/-- After the first line, if it is a shutdown, the second is no ping or shutdown of the host. -/
def Heeds (x y : Sending) : Prop :=
  tells .shutdown x.line = true → y.occasion.own = true →
    tells .ping y.line = false ∧ tells .shutdown y.line = false

/-- The host's own lines of a kind. -/
def own (k : Frame.Kind) (x : Sending) : Bool := x.occasion.own && tells k x.line

/-- What holds of all that a drive sends. -/
structure Safe (options : DriveOptions) (s : Drive) : Prop where
  /-- The pings are numbered from one, without a gap. -/
  pings : (s.sent.filter (own .ping)).map Sending.line =
    (List.range s.driver.report.pings).map fun n => Driver.pingLine (n + 1)
  /-- Each end of an interval brings about one of them. -/
  ticks : s.driver.report.pings = s.past.count .tick
  budget : s.driver.report.pings ≤ max 1 options.maxPings
  heeds : s.sent.Pairwise Heeds
  once : s.sent.countP (own .shutdown) ≤ 1
  lawful : ∀ x ∈ s.sent, Lawful options x

/-! ## What a driver knows -/

/-- What a driver knows of the occasions before. -/
structure Informed (options : DriveOptions) (past : List Occasion) (d : Driver) : Prop where
  settings : d.options = options
  ready : d.ready = (past.filterMap Occasion.line?).any (tells .ready)
  pongs : d.report.pongs = (past.filterMap Occasion.line?).countP (tells .pong)
  ticks : d.report.pings = past.count .tick
  budget : d.report.pings ≤ max 1 options.maxPings
  going : d.shutdown = false → d.report.pings < max 1 options.maxPings

variable {options : DriveOptions} {past : List Occasion} {o : Occasion} {d : Driver}

theorem filterMap_line?_concat (past : List Occasion) (o : Occasion) :
    (past ++ [o]).filterMap Occasion.line? =
      past.filterMap Occasion.line? ++ o.line?.toList := by
  rw [List.filterMap_append]
  cases ho : o.line? <;> simp [ho]

theorem Informed.satisfied (h : Informed options past d) :
    d.satisfied = satisfied options past := by
  unfold Driver.satisfied Drive.satisfied
  rw [h.settings, h.ready, h.pongs]

theorem Informed.tick (h : Informed options past d) (hd : d.ticking = true) :
    Informed options (past ++ [.tick]) d.tick.next := by
  have hheard : (past ++ [Occasion.tick]).filterMap Occasion.line? =
      past.filterMap Occasion.line? := by
    rw [filterMap_line?_concat]
    exact List.append_nil _
  have hsteady := Driver.steady_tick d
  have hlt := h.going (Driver.shutdown_of_ticking hd)
  refine ⟨d.tick_settings.2.trans h.settings, ?_, ?_, ?_, ?_, ?_⟩
  · rw [hsteady.ready, hheard, h.ready]
  · rw [hsteady.pongs, hheard, h.pongs]
  · rw [d.tick_pings, h.ticks, List.count_append]
    rfl
  · rw [d.tick_pings]
    exact hlt
  · intro hnext
    obtain ⟨-, -, -, -, hgoes⟩ := d.tick_lines
    have hgoes := hgoes hnext
    rw [h.settings] at hgoes
    rw [d.tick_pings]
    exact Nat.lt_of_lt_of_le hgoes (Nat.le_max_right _ _)

theorem Informed.event (h : Informed options past d) (e : HostEvent) :
    Informed options (past ++ [.event e]) (d.handle e).next := by
  obtain ⟨hoptions, hpings⟩ := d.handle_keeps e
  obtain ⟨hpongs, -⟩ := Driver.handle_counts e d
  have hheard := filterMap_line?_concat past (.event e)
  refine ⟨hoptions.trans h.settings, ?_, ?_, ?_, ?_, ?_⟩
  · rw [d.handle_ready, hheard, List.any_append, h.ready]
    cases hl : e.line? <;> simp [Occasion.line?, hl]
  · rw [hpongs, hheard, List.countP_append, h.pongs]
    rfl
  · rw [hpings, h.ticks, List.count_append]
    simp
  · rw [hpings]
    exact h.budget
  · intro hnext
    rw [(d.forwards_handle e).shutdown, Bool.or_eq_false_iff] at hnext
    rw [hpings]
    exact h.going hnext.1

/-! ## What a driver sends -/

/-- The lines that a driver sends at an occasion, after which it is the driver `next`. -/
structure Fits (options : DriveOptions) (past : List Occasion) (o : Occasion) (d next : Driver)
    (lines : List String) : Prop where
  keeps : d.shutdown = true → next.shutdown = true
  asked : ∀ line ∈ lines, tells .shutdown line = true → next.shutdown = true
  heeds : lines.Pairwise fun a b => Heeds ⟨past, o, a⟩ ⟨past, o, b⟩
  quiet : d.shutdown = true → o.own = true → ∀ line ∈ lines,
    tells .ping line = false ∧ tells .shutdown line = false
  /-- The first line tells whether there is a ping. -/
  pings : ∀ done, done <+: lines → (lines ≠ [] → done ≠ []) →
    (done.filter fun line => o.own && tells .ping line) =
      if o = .tick then [Driver.pingLine (d.report.pings + 1)] else []
  lawful : ∀ line ∈ lines, Lawful options ⟨past, o, line⟩

theorem lawful_of_reason {line reason : String}
    (hline : Driver.stopReason? line = some (some reason))
    (h : reason ≠ Driver.completedReason ∧ reason ≠ Driver.timeoutReason) :
    Lawful options ⟨past, o, line⟩ := by
  refine ⟨fun _ hstop => ?_, fun _ hstop => ?_⟩ <;> dsimp only at hstop <;>
    rw [hline, Option.some.injEq, Option.some.injEq] at hstop
  · exact absurd hstop h.1
  · exact absurd hstop h.2

theorem lawful_of_not_stops {line : String} (hline : tells .shutdown line = false) :
    Lawful options ⟨past, o, line⟩ := by
  have hnone := Driver.stopReason?_eq_none hline
  refine ⟨fun _ hstop => ?_, fun _ hstop => ?_⟩ <;> dsimp only at hstop <;> rw [hnone] at hstop <;>
    cases hstop

/-- The shutdown at the end of an interval gives the reason that there is for it. -/
theorem lawful_of_stops (h : Informed options past d) {reason : String}
    (hreason : Driver.Stops d reason) :
    Lawful options ⟨past, .tick, (Frame.shutdownFor reason).encode⟩ := by
  have hwhy := Driver.stopReason?_shutdownFor reason
  have hne : Driver.completedReason ≠ Driver.timeoutReason := by decide
  refine ⟨fun _ hwhy' => ?_, fun _ hwhy' => ?_⟩ <;> dsimp only at hwhy' <;>
    rw [hwhy, Option.some.injEq, Option.some.injEq] at hwhy'
  · cases hreason with
    | completed hsat => exact ⟨rfl, h.satisfied.symm.trans hsat⟩
    | timeout => exact absurd hwhy'.symm hne
  · cases hreason with
    | completed => exact absurd hwhy' hne
    | timeout hsat hpings =>
      refine ⟨rfl, h.satisfied.symm.trans hsat, ?_⟩
      rw [h.settings, h.ticks] at hpings
      rw [List.count_append]
      exact hpings

theorem filter_ping_eq_nil {lines : List String} (h : ∀ line ∈ lines, tells .ping line = false) :
    (lines.filter fun line => o.own && tells .ping line) = [] := by
  rw [List.filter_eq_nil_iff]
  intro line hline
  rw [h line hline, Bool.and_false]
  exact Bool.false_ne_true

/-- A driver that has not stopped sends a ping, and perhaps a shutdown after it. -/
theorem fits_tick (h : Informed options past d) (hd : d.ticking = true)
    (hmax : options.maxPings < 18446744073709551616) :
    Fits options past .tick d d.tick.next (d.tick.sends.map Outgoing.line) := by
  obtain ⟨rest, hlines, hlength, hstop, -⟩ := d.tick_lines
  have hgoing := Driver.shutdown_of_ticking hd
  have hlt := h.going hgoing
  have hseq : d.report.pings + 1 < 18446744073709551616 := by omega
  have hping := Driver.tells_pingLine hseq
  have hnot := Driver.tells_shutdown_pingLine hseq
  -- what follows the ping, if anything does, is a shutdown
  have hquiet : ∀ line ∈ rest, tells .ping line = false := by
    intro line hline
    obtain ⟨-, reason, -, rfl⟩ := hstop line hline
    exact Frame.tells_shutdownFor .ping reason
  have hnever : ¬d.shutdown = true := by
    rw [hgoing]
    exact Bool.false_ne_true
  rw [hlines]
  refine ⟨fun hd' => absurd hd' hnever, ?_, ?_, fun hd' => absurd hd' hnever, ?_, ?_⟩
  · intro line hline hline'
    rcases List.mem_cons.mp hline with rfl | hline
    · rw [hnot] at hline'
      cases hline'
    · exact (hstop line hline).1
  · rw [List.pairwise_cons]
    refine ⟨fun line _ hp => ?_, ?_⟩
    · dsimp only at hp
      rw [hnot] at hp
      cases hp
    · match rest, hlength with
      | [], _ => exact .nil
      | [line], _ => exact List.pairwise_singleton _ _
  · intro done hdone hne
    cases done with
    | nil => exact absurd rfl (hne (List.cons_ne_nil _ _))
    | cons line more =>
      rw [List.cons_prefix_cons] at hdone
      obtain ⟨rfl, hmore⟩ := hdone
      have hnone := filter_ping_eq_nil (o := .tick) fun line hline =>
        hquiet line (hmore.subset hline)
      rw [List.filter_cons_of_pos (by rw [hping]; rfl), hnone, if_pos rfl]
  · intro line hline
    rcases List.mem_cons.mp hline with rfl | hline
    · exact lawful_of_not_stops hnot
    · obtain ⟨-, reason, hreason, rfl⟩ := hstop line hline
      exact lawful_of_stops h hreason

/-- What a driver sends at an event: external input, or lines that are neither a ping nor a shutdown, or
one shutdown. -/
theorem event_lines (e : HostEvent) (d : Driver) :
    (Occasion.event e).own = false ∨
      (∀ line ∈ (d.handle e).sends.map Outgoing.line,
        tells .ping line = false ∧ tells .shutdown line = false) ∨
      (d.handle e).sends.map Outgoing.line = [Driver.closing] ∧ d.shutdown = false := by
  rcases (d.forwards_handle e).sends with ⟨line, hline, -⟩ | ⟨-, hidle | ⟨hclosing, -, hd⟩⟩
  · cases e with
    | external => exact Or.inl rfl
    | _ => cases hline
  · refine Or.inr (Or.inl fun line hline => ?_)
    obtain ⟨out, hout, rfl⟩ := List.mem_map.mp hline
    exact Frame.tells_of_idle (hidle out hout)
  · exact Or.inr (Or.inr ⟨hclosing, hd⟩)

/-- At an event, a driver forwards external input, answers a call or asks once for a stop. -/
theorem fits_event (e : HostEvent) (d : Driver) :
    Fits options past (.event e) d (d.handle e).next
      ((d.handle e).sends.map Outgoing.line) := by
  have hshutdown := (d.forwards_handle e).shutdown
  have hkeeps : d.shutdown = true → (d.handle e).next.shutdown = true := by
    intro hd
    rw [hshutdown, hd, Bool.true_or]
  have hasked : ∀ line ∈ (d.handle e).sends.map Outgoing.line, tells .shutdown line = true →
      (d.handle e).next.shutdown = true := by
    intro line hline hstop
    obtain ⟨out, hout, rfl⟩ := List.mem_map.mp hline
    rw [hshutdown, Bool.or_eq_true]
    exact Or.inr (List.any_eq_true.mpr ⟨out, hout, hstop⟩)
  have hevent : ¬Occasion.event e = .tick := Occasion.noConfusion
  rcases event_lines e d with hown | hquiet | ⟨hclosing, hd⟩
  · refine ⟨hkeeps, hasked, List.pairwise_of_forall fun _ _ _ h => ?_, fun _ h => ?_, ?_, ?_⟩
    · exact absurd (hown.symm.trans h) Bool.false_ne_true
    · exact absurd (hown.symm.trans h) Bool.false_ne_true
    · intro done _ _
      simp [hown]
    · intro line _
      refine ⟨fun h => ?_, fun h => ?_⟩ <;> exact absurd (hown.symm.trans h) Bool.false_ne_true
  · refine ⟨hkeeps, hasked, ?_, fun _ _ => hquiet, ?_, fun line hline =>
      lawful_of_not_stops (hquiet line hline).2⟩
    · exact List.pairwise_of_forall_mem_list fun _ _ line hline _ _ => hquiet line hline
    · intro done hdone _
      rw [if_neg hevent]
      exact filter_ping_eq_nil fun line hline => (hquiet line (hdone.subset hline)).1
  · rw [hclosing] at hasked ⊢
    have hwhy := Driver.stopReason?_shutdownFor Driver.inputClosedReason
    refine ⟨hkeeps, hasked, List.pairwise_singleton _ _, ?_, ?_, ?_⟩
    · intro hd'
      rw [hd] at hd'
      cases hd'
    · intro done hdone _
      rw [if_neg hevent]
      refine filter_ping_eq_nil fun line hline => ?_
      rw [List.mem_singleton.mp (hdone.subset hline)]
      exact Frame.tells_shutdownFor .ping _
    · intro line hline
      rw [List.mem_singleton.mp hline]
      exact lawful_of_reason hwhy (by decide)

/-! ## One reaction -/

/-- The lines are sent in turn, and at least the first one is. -/
theorem sendAll_eq (o : Occasion) (outgoing : List Outgoing) (s : Drive) :
    ∃ done, done <+: outgoing.map Outgoing.line ∧
      (outgoing.map Outgoing.line ≠ [] → done ≠ []) ∧
      (sendAll o outgoing s).2 = { s with sent := s.sent ++ done.map (Sending.mk s.past o) } := by
  induction outgoing generalizing s with
  | nil => exact ⟨[], List.nil_prefix, fun h => absurd rfl h, by simp [sendAll]⟩
  | cons out rest ih =>
    rw [sendAll]
    split
    · obtain ⟨done, hdone, -, hs⟩ :=
        ih { s with sent := s.sent ++ [⟨s.past, o, out.line⟩] }
      refine ⟨out.line :: done, ?_, fun _ => List.cons_ne_nil _ _, ?_⟩
      · rw [List.map_cons, List.prefix_cons_inj]
        exact hdone
      · rw [hs]
        simp
    · refine ⟨[out.line], ?_, fun _ => List.cons_ne_nil _ _, rfl⟩
      rw [List.map_cons, List.prefix_cons_inj]
      exact List.nil_prefix

theorem react_eq (o : Occasion) (r : Reaction) (s : Drive) :
    ∃ done ending, done <+: r.sends.map Outgoing.line ∧
      (r.sends.map Outgoing.line ≠ [] → done ≠ []) ∧
      s.react o r = ⟨r.next, s.room, s.past ++ [o],
        s.sent ++ done.map (Sending.mk s.past o), ending⟩ := by
  obtain ⟨done, hdone, hne, hs⟩ := sendAll_eq o r.sends { s with driver := r.next }
  refine ⟨done, (s.react o r).ending, hdone, hne, ?_⟩
  rw [react, hs]

/-- What a driver knows of the occasions before, and what it sent then. -/
structure Kept (options : DriveOptions) (s : Drive) : Prop where
  informed : Informed options s.past s.driver
  asked : ∀ x ∈ s.sent, tells .shutdown x.line = true → s.driver.shutdown = true
  pings : (s.sent.filter (own .ping)).map Sending.line =
    (List.range s.driver.report.pings).map fun n => Driver.pingLine (n + 1)
  heeds : s.sent.Pairwise Heeds
  lawful : ∀ x ∈ s.sent, Lawful options x

variable {s s' : Drive}

theorem kept_start (options : DriveOptions) (executor : HostCall.Executor) (room : Option Nat) :
    Kept options (start options executor room) where
  informed := ⟨rfl, rfl, rfl, rfl, Nat.zero_le _,
    fun _ => Nat.lt_of_lt_of_le Nat.zero_lt_one (Nat.le_max_left 1 options.maxPings)⟩
  asked := nofun
  pings := rfl
  heeds := .nil
  lawful := nofun

theorem Kept.react (h : Kept options s) {r : Reaction}
    (hnext : Informed options (s.past ++ [o]) r.next)
    (hfits : Fits options s.past o s.driver r.next (r.sends.map Outgoing.line)) :
    Kept options (s.react o r) := by
  obtain ⟨done, ending, hdone, hne, hreact⟩ := react_eq o r s
  have hnew : ∀ x ∈ done.map (Sending.mk s.past o),
      ∃ line ∈ r.sends.map Outgoing.line, x = ⟨s.past, o, line⟩ := by
    intro x hx
    obtain ⟨line, hline, rfl⟩ := List.mem_map.mp hx
    exact ⟨line, hdone.subset hline, rfl⟩
  rw [hreact]
  refine ⟨hnext, ?_, ?_, ?_, ?_⟩
  · intro x hx hstop
    rcases List.mem_append.mp hx with hx | hx
    · exact hfits.keeps (h.asked x hx hstop)
    · obtain ⟨line, hline, rfl⟩ := hnew x hx
      exact hfits.asked line hline hstop
  · -- if there is a ping now, it was sent, since it comes first
    have hfilter : ((done.map (Sending.mk s.past o)).filter (own .ping)).map Sending.line =
        if o = .tick then [Driver.pingLine (s.driver.report.pings + 1)] else [] := by
      rw [← hfits.pings done hdone hne, List.filter_map, List.map_map]
      exact List.map_id _
    have hcount : r.next.report.pings =
        s.driver.report.pings + if o = .tick then 1 else 0 := by
      rw [hnext.ticks, h.informed.ticks, List.count_append, List.count_singleton]
      simp
    dsimp only
    rw [List.filter_append, List.map_append, h.pings, hfilter, hcount]
    split
    · rw [List.range_succ, List.map_append]
      rfl
    · rw [List.append_nil, Nat.add_zero]
  · -- a shutdown among the lines before stopped the driver, which is quiet then
    rw [List.pairwise_append, List.pairwise_map]
    refine ⟨h.heeds, hfits.heeds.sublist hdone.sublist, ?_⟩
    intro x hx y hy hstop hown
    obtain ⟨line, hline, rfl⟩ := hnew y hy
    exact hfits.quiet (h.asked x hx hstop) hown line hline
  · intro x hx
    rcases List.mem_append.mp hx with hx | hx
    · exact h.lawful x hx
    · obtain ⟨line, hline, rfl⟩ := hnew x hx
      exact hfits.lawful line hline

theorem Kept.step (h : Kept options s) (hmax : options.maxPings < 18446744073709551616)
    (hs : s.step o = some s') : Kept options s' := by
  unfold Drive.step at hs
  split at hs
  · cases hs
  · split at hs
    · rename_i hticking
      obtain rfl := Option.some.inj hs
      exact h.react (h.informed.tick hticking) (fits_tick h.informed hticking hmax)
    · cases hs
  · rename_i e _
    obtain rfl := Option.some.inj hs
    exact h.react (h.informed.event e) (fits_event e s.driver)

theorem Kept.follow (hmax : options.maxPings < 18446744073709551616) {occasions : List Occasion}
    (h : Kept options s) (hs : follow occasions s = some s') : Kept options s' := by
  induction occasions generalizing s with
  | nil =>
    obtain rfl := Option.some.inj hs
    exact h
  | cons o rest ih =>
    obtain ⟨next, hnext, hrest⟩ := Option.bind_eq_some_iff.mp hs
    exact ih (h.step hmax hnext) hrest

/-! ## All together -/

/-- After its first shutdown the host does not ask for another. -/
theorem countP_shutdown_le_one {sent : List Sending} (h : sent.Pairwise Heeds) :
    sent.countP (own .shutdown) ≤ 1 := by
  induction sent with
  | nil => exact Nat.zero_le _
  | cons x rest ih =>
    rw [List.pairwise_cons] at h
    obtain ⟨hx, hrest⟩ := h
    by_cases hown : own .shutdown x = true
    · have hstop := (Bool.and_eq_true_iff.mp hown).2
      have hnone : rest.countP (own .shutdown) = 0 := by
        rw [List.countP_eq_zero]
        intro y hy hy'
        obtain ⟨ho, hline⟩ := Bool.and_eq_true_iff.mp hy'
        rw [(hx y hy hstop ho).2] at hline
        cases hline
      rw [List.countP_cons_of_pos hown, hnone]
    · rw [List.countP_cons_of_neg hown]
      exact ih hrest

/-- However ends of intervals and events follow one another, a drive is safe. -/
theorem follow_safe {options : DriveOptions} {executor : HostCall.Executor} {room : Option Nat}
    {occasions : List Occasion} {s : Drive} (hmax : options.maxPings < 18446744073709551616)
    (hs : follow occasions (start options executor room) = some s) : Safe options s := by
  have h := (kept_start options executor room).follow hmax hs
  exact ⟨h.pings, h.informed.ticks, h.informed.budget, h.heeds, countP_shutdown_le_one h.heeds,
    h.lawful⟩

theorem follow_safe_completed :
    let options : DriveOptions := ⟨300, 1, 3⟩
    let occasions : List Occasion := [.event (.frame "\x7b\"type\":\"ready\"\x7d"), .tick,
      .event (.frame "\x7b\"type\":\"pong\",\"seq\":1,\"at\":7\x7d"), .event (.external "hi"),
      .tick, .event .externalClosed]
    options.maxPings < 18446744073709551616 ∧ ∃ s,
      follow occasions (start options (fun _ => .ok .null) none) = some s ∧ Safe options s ∧
        s.sent.map Sending.line = [Driver.pingLine 1, forwarded "hi", Driver.pingLine 2,
          (Frame.shutdownFor Driver.completedReason).encode] := by
  intro options occasions
  have hmax : options.maxPings < 18446744073709551616 := by decide
  have hlines : (follow occasions (start options (fun _ => .ok .null) none)).map
      (fun s => s.sent.map Sending.line) = some [Driver.pingLine 1, forwarded "hi",
        Driver.pingLine 2, (Frame.shutdownFor Driver.completedReason).encode] := by
    decide +kernel
  obtain ⟨s, hs, hsent⟩ := Option.map_eq_some_iff.mp hlines
  exact ⟨hmax, s, hs, follow_safe hmax hs, hsent⟩

/-! ## Rehearsals -/

/-- How a drive ended. -/
def verdict (s : Drive) : DriveEnding :=
  match s.ending with
  | none => .waiting
  | some none => .finished s.driver.report
  | some (some f) => .failed f

/-- The drive is the rehearsal, which wrote the lines `before` on top of what the drive sent. -/
structure Shows (before : List String) (r : Rehearsal) (s : Drive) : Prop where
  driver : s.driver = r.driver
  room : s.room = if r.connected then none else some 0
  ending : s.ending = none
  written : r.written = before ++ if r.connected then s.sent.map Sending.line else []

variable {before : List String} {r : Rehearsal}

theorem Shows.send (h : Shows before r s) (o : Occasion) (out : Outgoing) :
    (s.receiving || !out.required) = (r.send out).1 ∧
      Shows before (r.send out).2 { s with sent := s.sent ++ [⟨s.past, o, out.line⟩] } ∧
      (r.send out).2.connected = r.connected := by
  obtain ⟨driver, queue, later, connected, written⟩ := r
  obtain ⟨hdriver, hroom, hending, hwritten⟩ := h
  cases connected with
  | true =>
    have hreceiving : s.receiving = true := by
      rw [receiving, hroom]
      rfl
    have hsend : ∃ queue' later', Rehearsal.send out ⟨driver, queue, later, true, written⟩ =
        (true, ⟨driver, queue', later', true, written ++ [out.line]⟩) := by
      unfold Rehearsal.send
      cases later with
      | none => exact ⟨_, _, rfl⟩
      | some events =>
        by_cases hasks : Rehearsal.asksToStop out.line = true
        · exact ⟨queue ++ events, none, by simp [hasks]⟩
        · exact ⟨queue, some events, by simp [hasks]⟩
    obtain ⟨queue', later', hsend⟩ := hsend
    rw [hsend, hreceiving]
    refine ⟨rfl, ⟨hdriver, hroom, hending, ?_⟩, rfl⟩
    have hwritten : written = before ++ s.sent.map Sending.line := hwritten
    show written ++ [out.line] = before ++ (s.sent ++ [_]).map Sending.line
    rw [hwritten, List.append_assoc, List.map_append, List.map_singleton]
  | false =>
    have hreceiving : s.receiving = false := by
      rw [receiving, hroom]
      rfl
    rw [hreceiving]
    exact ⟨rfl, ⟨hdriver, hroom, hending, hwritten⟩, rfl⟩

theorem Shows.sendAll (h : Shows before r s) (o : Occasion) (outgoing : List Outgoing) :
    (sendAll o outgoing s).1 = (r.sendAll outgoing).1 ∧
      Shows before (r.sendAll outgoing).2 (sendAll o outgoing s).2 ∧
      (r.sendAll outgoing).2.connected = r.connected := by
  induction outgoing generalizing r s with
  | nil => exact ⟨rfl, h, rfl⟩
  | cons out rest ih =>
    obtain ⟨hgoes, hnext, hconnected⟩ := h.send o out
    rw [Drive.sendAll, Rehearsal.sendAll, hgoes]
    generalize r.send out = sent at hnext hconnected
    obtain ⟨goes, r'⟩ := sent
    cases goes with
    | false => exact ⟨rfl, hnext, hconnected⟩
    | true =>
      obtain ⟨hgoes', hlast, hconnected'⟩ := ih hnext
      exact ⟨hgoes', hlast, hconnected'.trans hconnected⟩

/-- A rehearsal reacts as a drive does at some occasion. -/
theorem Shows.step (h : Shows before r s) {reaction : Reaction} {r' : Rehearsal}
    (hr : r.next? = some (reaction, r')) :
    ∃ o, s.step o = some (s.react o reaction) ∧
      Shows before { r' with driver := reaction.next } { s with driver := reaction.next } ∧
      r'.connected = r.connected := by
  obtain ⟨driver, queue, later, connected, written⟩ := r
  obtain ⟨hdriver, hroom, hending, hwritten⟩ := h
  obtain rfl : s.driver = driver := hdriver
  cases queue with
  | cons e rest =>
    obtain ⟨rfl, rfl⟩ := Prod.mk.inj (Option.some.inj hr)
    refine ⟨.event e, ?_, ⟨rfl, hroom, hending, hwritten⟩, rfl⟩
    unfold Drive.step
    rw [hending]
  | nil =>
    cases later with
    | none =>
      obtain ⟨rfl, rfl⟩ := Prod.mk.inj (Option.some.inj hr)
      refine ⟨.event .scriptClosed, ?_, ⟨rfl, hroom, hending, hwritten⟩, rfl⟩
      unfold Drive.step
      rw [hending]
    | some events =>
      simp only [Rehearsal.next?, Option.ite_none_right_eq_some, Option.some.injEq] at hr
      obtain ⟨hticking, hr⟩ := hr
      obtain ⟨rfl, rfl⟩ := Prod.mk.inj hr
      refine ⟨.tick, ?_, ⟨rfl, hroom, hending, hwritten⟩, rfl⟩
      unfold Drive.step
      rw [hending]
      exact if_pos hticking

/-- Every rehearsal is a drive at some occasions. -/
theorem Shows.exists_follow (h : Shows before r s) (n : Nat) :
    ∃ occasions t, follow occasions s = some t ∧ r.runFor n =
      (before ++ if r.connected then t.sent.map Sending.line else [], t.verdict) := by
  induction n generalizing r s with
  | zero =>
    refine ⟨[], s, rfl, ?_⟩
    rw [Rehearsal.runFor, verdict, h.ending, h.written]
  | succ n ih =>
    rw [Rehearsal.runFor]
    cases hr : r.next? with
    | none =>
      refine ⟨[], s, rfl, ?_⟩
      rw [verdict, h.ending, h.written]
    | some next =>
      obtain ⟨reaction, r'⟩ := next
      obtain ⟨o, hstep, hnext, hconnected⟩ := h.step hr
      obtain ⟨hgoes, hsent, hconnected'⟩ := hnext.sendAll o reaction.sends
      -- the drive takes the same reaction; it goes on just if the rehearsal does
      have hfollow (rest : List Occasion) :
          follow (o :: rest) s = follow rest (s.react o reaction) := by
        rw [follow, hstep, Option.bind_some]
      have hkept := hconnected'.trans hconnected
      dsimp only
      cases hgone : Rehearsal.sendAll reaction.sends { r' with driver := reaction.next } with
      | mk goes r'' =>
        rw [hgone] at hgoes hsent hkept
        have hending : (s.react o reaction).ending = reaction.ending goes := by
          rw [react, hgoes]
        have hwritten : r''.written = before ++
            if r.connected then (s.react o reaction).sent.map Sending.line else [] := by
          rw [← hkept]
          exact hsent.written
        cases goes with
        | false =>
          refine ⟨[o], _, hfollow [], ?_⟩
          rw [verdict, hending, ← hwritten]
          rfl
        | true =>
          unfold Reaction.ending at hending
          dsimp only
          cases hq : reaction.sequel with
          | proceed =>
            rw [hq] at hending
            obtain ⟨rest, t, hrest, hrun⟩ :=
              ih (s := s.react o reaction) ⟨hsent.driver, hsent.room, hending, hsent.written⟩
            refine ⟨o :: rest, t, (hfollow rest).trans hrest, ?_⟩
            rw [← hkept]
            exact hrun
          | done =>
            rw [hq] at hending
            have hdriver : (s.react o reaction).driver = r''.driver := hsent.driver
            refine ⟨[o], _, hfollow [], ?_⟩
            rw [verdict, hending, ← hwritten, hdriver]
          | failed f =>
            rw [hq] at hending
            refine ⟨[o], _, hfollow [], ?_⟩
            rw [verdict, hending, ← hwritten]

/-- A rehearsal of a drive with pings is a drive, in which no line or every line is received. -/
theorem run_eq_follow (options : DriveOptions) (executor : HostCall.Executor)
    (queue : List HostEvent) (later : Option (List HostEvent)) (connected : Bool) :
    ∃ occasions s, follow occasions
        (start options executor (if connected then none else some 0)) = some s ∧
      Rehearsal.run ⟨.start .oneshot options executor, queue, later, connected, []⟩ =
        (if connected then s.sent.map Sending.line else [], s.verdict) := by
  have hstart : Shows [] ⟨.start .oneshot options executor, queue, later, connected, []⟩
      (start options executor (if connected then none else some 0)) :=
    ⟨rfl, rfl, rfl, by cases connected <;> rfl⟩
  exact hstart.exists_follow _

end Drive

end ScriptLink
