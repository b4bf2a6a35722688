import ScriptLink.Launch.System

/-!
# ScriptLink.Proofs.Launch.Turn — what one move does

* `Turn o s frames next` lists everything that a move can do to the system `s`: which frames the session
  writes and what the system is after it. `turn_of_step` has it that a move does nothing else.
* `System.Doomed`: one side failed or is about to. It stays so (`Doomed.turn`), so of a launch that ends
  well no move before the end was of that kind.
* `written`: the frames that the session writes in the course of moves; `framesOut_follow` has it that
  they are those the session counts.
* `follow_induction`: what holds at the beginning and outlives every turn holds at a good end.
-/

namespace ScriptLink

namespace System

/-- Why the session fails. -/
inductive Breaks (o : Options) (s : System σ) : SessionFault → Prop
  | fatal {why} (hs : s.script = .writing [] (.failure (.fatal why))) : Breaks o s (.fatal why)
  | deaf {f rest v} (hs : s.script = .writing (f :: rest) v)
      (hclosed : s.pair.toHost.receiverOpen = false) : Breaks o s (.channel .closed)
  | abandoned (hs : s.script = .reading) (hi : s.pair.toScript.items = [])
      (hclosed : s.pair.toScript.senderOpen = false) : Breaks o s (.channel .closed)
  | late {limit} (hs : s.script = .reading) (hl : o.limit = some limit) :
      Breaks o s (.channel (.timedOut limit))

/-- Why the drive is given up. -/
inductive Quits (s : System σ) : DriveFault → Prop
  | told {f} (hd : s.drive = .sending [] (.failed f)) : Quits s f
  | lost {l rest q} (hd : s.drive = .sending (l :: rest) q) (hl : l.required = true)
      (hclosed : s.pair.toScript.receiverOpen = false) : Quits s .channelClosed

/-- What the input forwarder has left and what it passes on. -/
inductive Feeds (s : System σ) : Option (List String) → List HostEvent → Prop
  | pass {line rest} (hi : s.input = some (line :: rest)) (he : s.events.receiverOpen = true) :
      Feeds s (some rest) [.external line]
  | close (hi : s.input = some []) (he : s.events.receiverOpen = true) :
      Feeds s none [.externalClosed]
  | leave (he : s.events.receiverOpen = false) : Feeds s none []

/-- What a move can do: the frames that the session writes, and the system afterwards. -/
inductive Turn (o : Options) (s : System σ) : List Frame → System σ → Prop
  | write {f rest v} (hs : s.script = .writing (f :: rest) v)
      (hopen : s.pair.toHost.receiverOpen = true) :
      Turn o s [f] { s with
        pair.toHost.items := s.pair.toHost.items ++ [f.encode]
        framesOut := s.framesOut + 1
        script := .writing rest v }
  | listen {v} (hs : s.script = .writing [] v) (hv : v ≠ .stop) (hn : v.ending? = none) :
      Turn o s [] { s with script := .reading }
  | stop (hs : s.script = .writing [] .stop) : Turn o s [] (s.endScript none)
  | take {line rest} (hs : s.script = .reading) (hi : s.pair.toScript.items = line :: rest) :
      Turn o s [] ({ s with pair.toScript.items := rest }.takeLine o line)
  | failScript {f} (hs : ∀ g, s.script ≠ .ended g) (hf : Breaks o s f) :
      Turn o s [] (s.endScript (some f))
  | forward {line rest} (hi : s.pair.toHost.items = line :: rest)
      (hopen : s.pair.toHost.receiverOpen = true) (he : s.events.receiverOpen = true) :
      Turn o s [] { s with
        pair.toHost.items := rest
        events.items := s.events.items ++ [.frame line] }
  | deafen {line rest} (hi : s.pair.toHost.items = line :: rest)
      (he : s.events.receiverOpen = false) :
      Turn o s [] { s with pair.toHost.items := rest, pair.toHost.receiverOpen := false }
  | hangUp {more} (hi : s.pair.toHost.items = []) (hs : s.pair.toHost.senderOpen = false)
      (hm : more = [.scriptClosed] ∨ more = []) (hopen : s.pair.toHost.receiverOpen = true) :
      Turn o s [] { s with
        pair.toHost.receiverOpen := false
        events.items := s.events.items ++ more }
  | feed {input more} (hi : s.input ≠ none)
      (hm : ∀ e ∈ more, (∃ line, e = .external line) ∨ e = .externalClosed)
      (hf : Feeds s input more) :
      Turn o s [] { s with input := input, events.items := s.events.items ++ more }
  | handle {e rest} (hd : s.drive = .waiting) (hi : s.events.items = e :: rest) :
      Turn o s [] ({ s with events.items := rest }.react (s.driver.handle e))
  | tick (hd : s.drive = .waiting) (ht : s.driver.ticking = true) :
      Turn o s [] (s.react s.driver.tick)
  | await (hd : s.drive = .sending [] .proceed) : Turn o s [] { s with drive := .waiting }
  | finish (hd : s.drive = .sending [] .done) : Turn o s [] (s.endDrive none)
  | failDrive {f} (hd : ∀ g, s.drive ≠ .ended g) (hf : Quits s f) :
      Turn o s [] (s.endDrive (some f))
  | send {l rest q} (hd : s.drive = .sending (l :: rest) q)
      (hopen : s.pair.toScript.receiverOpen = true) :
      Turn o s [] { s with
        pair.toScript.items := s.pair.toScript.items ++ [l.line]
        drive := .sending rest q }
  | drop {l rest q} (hd : s.drive = .sending (l :: rest) q)
      (hclosed : s.pair.toScript.receiverOpen = false) (hl : l.required = false) :
      Turn o s [] { s with drive := .sending rest q }

/-! ## Moves -/

/-- The frame that the session writes in a move. -/
def writes (m : Move) (s : System σ) : List Frame :=
  match m, s.script with
  | .session, .writing (f :: _) _ => if s.pair.toHost.receiverOpen then [f] else []
  | _, _ => []

theorem send?_of_open {q : Queue α} (h : q.receiverOpen = true) (x : α) :
    q.send? x = some { q with items := q.items ++ [x] } :=
  if_pos h

theorem send?_of_closed {q : Queue α} (h : q.receiverOpen = false) (x : α) : q.send? x = none :=
  if_neg (Bool.eq_false_iff.mp h)

/-- A read finds the oldest line, or that there is none. -/
theorem receive_cases (limit : Option Nat) (q : Queue String) :
    (∃ line rest, q.items = line :: rest ∧
      q.receive limit = (.line line, { q with items := rest })) ∨
    q.items = [] ∧ q.receive limit =
      (if q.senderOpen then Reading.ofLimit limit else .failed .closed, q) := by
  obtain ⟨items, sender, receiver⟩ := q
  cases items with
  | nil => exact Or.inr ⟨rfl, rfl⟩
  | cons line rest => exact Or.inl ⟨line, rest, rfl, rfl⟩

theorem turn_conclude {o : Options} {s : System σ} {v : Verdict} (hs : s.script = .writing [] v) :
    Turn o s [] (s.conclude v) := by
  have hs' : ∀ g, s.script ≠ .ended g := by simp [hs]
  cases v with
  | proceed => exact .listen hs Verdict.noConfusion rfl
  | stop => exact .stop hs
  | failure f =>
    cases f with
    | failed why => exact .listen hs Verdict.noConfusion rfl
    | fatal why => exact .failScript hs' (.fatal hs)

theorem turn_of_stepSession {o : Options} {s next : System σ}
    (h : s.stepSession o = some next) : Turn o s (s.writes .session) next := by
  unfold stepSession at h
  unfold writes
  cases hs : s.script with
  | ended f =>
    rw [hs] at h
    cases h
  | reading =>
    rw [hs] at h
    have hs' : ∀ g, s.script ≠ .ended g := by simp [hs]
    unfold Pair.receive at h
    rcases receive_cases none s.pair.toScript with ⟨line, rest, hi, hr⟩ | ⟨hi, hr⟩
    · rw [hr] at h
      cases h
      exact .take hs hi
    · rw [hr] at h
      cases hopen : s.pair.toScript.senderOpen with
      | true =>
        rw [hopen] at h
        cases h
      | false =>
        rw [hopen] at h
        cases h
        exact .failScript hs' (.abandoned hs hi hopen)
  | writing frames v =>
    rw [hs] at h
    have hs' : ∀ g, s.script ≠ .ended g := by simp [hs]
    cases frames with
    | nil =>
      cases h
      exact turn_conclude hs
    | cons f rest =>
      dsimp only at h ⊢
      unfold Pair.send Queue.write at h
      cases hopen : s.pair.toHost.receiverOpen with
      | true =>
        rw [send?_of_open hopen] at h
        cases h
        exact .write hs hopen
      | false =>
        rw [send?_of_closed hopen] at h
        cases h
        exact .failScript hs' (.deaf hs hopen)

theorem turn_of_stepTimeout {o : Options} {s next : System σ}
    (h : s.stepTimeout o = some next) : Turn o s [] next := by
  unfold stepTimeout at h
  split at h
  · rename_i hs hl _
    cases h
    exact .failScript (by simp [hs]) (.late hs hl)
  · cases h

/-- What becomes of events when one more is sent. -/
theorem getD_send? (e : HostEvent) (q : Queue HostEvent) : ∃ more, (more = [e] ∨ more = []) ∧
    (q.send? e).getD q = { q with items := q.items ++ more } := by
  by_cases hq : q.receiverOpen = true
  · rw [send?_of_open hq]
    exact ⟨[e], Or.inl rfl, rfl⟩
  · rw [send?_of_closed (Bool.eq_false_iff.mpr hq)]
    refine ⟨[], Or.inr rfl, ?_⟩
    rw [List.append_nil]
    rfl

theorem turn_of_stepFrames {o : Options} {s next : System σ} (h : s.stepFrames = some next) :
    Turn o s [] next := by
  unfold stepFrames at h
  split at h
  · rename_i hopen
    unfold Pair.hostReceive at h
    rcases receive_cases none s.pair.toHost with ⟨line, rest, hi, hr⟩ | ⟨hi, hr⟩
    · rw [hr] at h
      cases he : s.events.receiverOpen with
      | true =>
        dsimp only at h
        rw [send?_of_open he] at h
        cases h
        exact .forward hi hopen he
      | false =>
        dsimp only at h
        rw [send?_of_closed he] at h
        cases h
        exact .deafen hi he
    · rw [hr] at h
      cases hs : s.pair.toHost.senderOpen with
      | true =>
        rw [hs] at h
        cases h
      | false =>
        rw [hs] at h
        obtain ⟨more, hm, he⟩ := getD_send? .scriptClosed s.events
        dsimp only [Bool.false_eq_true, if_false] at h
        rw [he] at h
        cases h
        exact .hangUp hi hs hm hopen
  · cases h

theorem turn_of_stepInput {o : Options} {s next : System σ} (h : s.stepInput = some next) :
    Turn o s [] next := by
  unfold stepInput at h
  -- nothing is passed on when the driver has hung up
  have hleave (hi : s.input ≠ none) (he : s.events.receiverOpen = false) :
      Turn o s [] { s with input := none } := by
    have ht : Turn o s [] { s with input := none, events.items := s.events.items ++ [] } :=
      .feed hi nofun (.leave he)
    rwa [List.append_nil] at ht
  split at h
  · cases h
  · rename_i hi
    have hsome : s.input ≠ none := by simp [hi]
    cases he : s.events.receiverOpen with
    | true =>
      rw [send?_of_open he] at h
      cases h
      exact .feed hsome (by simp) (.close hi he)
    | false =>
      rw [send?_of_closed he] at h
      cases h
      exact hleave hsome he
  · rename_i line rest hi
    have hsome : s.input ≠ none := by simp [hi]
    cases he : s.events.receiverOpen with
    | true =>
      rw [send?_of_open he] at h
      cases h
      exact .feed hsome (by simp) (.pass hi he)
    | false =>
      rw [send?_of_closed he] at h
      cases h
      exact hleave hsome he

theorem turn_of_stepDriver {o : Options} {s next : System σ} (h : s.stepDriver = some next) :
    Turn o s [] next := by
  unfold stepDriver at h
  split at h
  · cases h
  · rename_i hd
    obtain ⟨⟨e, events⟩, ht, rfl⟩ := Option.map_eq_some_iff.mp h
    unfold Queue.take? at ht
    split at ht
    · cases ht
    · rename_i e' rest hi
      cases ht
      exact .handle hd hi
  · rename_i hd
    cases h
    exact .await hd
  · rename_i hd
    cases h
    exact .finish hd
  · rename_i f hd
    cases h
    exact .failDrive (by simp [hd]) (.told hd)
  · rename_i l rest q hd
    unfold Pair.hostSend Queue.write at h
    cases hopen : s.pair.toScript.receiverOpen with
    | true =>
      rw [send?_of_open hopen] at h
      cases h
      exact .send hd hopen
    | false =>
      rw [send?_of_closed hopen] at h
      dsimp only at h
      split at h
      · rename_i hl
        cases h
        exact .failDrive (by simp [hd]) (.lost hd hl hopen)
      · rename_i hl
        cases h
        exact .drop hd hopen (Bool.eq_false_iff.mpr hl)

theorem turn_of_stepTick {o : Options} {s next : System σ} (h : s.stepTick = some next) :
    Turn o s [] next := by
  unfold stepTick at h
  split at h
  · rename_i hd
    split at h
    · rename_i ht
      cases h
      exact .tick hd ht
    · cases h
  · cases h

/-- A move does what it can do. -/
theorem turn_of_step {o : Options} {m : Move} {s next : System σ} (h : s.step o m = some next) :
    Turn o s (s.writes m) next := by
  cases m with
  | session => exact turn_of_stepSession h
  | timeout => exact turn_of_stepTimeout h
  | frames => exact turn_of_stepFrames h
  | input => exact turn_of_stepInput h
  | driver => exact turn_of_stepDriver h
  | tick => exact turn_of_stepTick h

/-! ## Failures -/

/-- One side failed, or the driver is about to. -/
def Doomed (s : System σ) : Prop :=
  (∃ f, s.script = .ended (some f)) ∨ (∃ f, s.drive = .ended (some f)) ∨
    ∃ lines f, s.drive = .sending lines (.failed f)

theorem not_doomed_iff {s : System σ} : ¬s.Doomed ↔ (∀ f, s.script ≠ .ended (some f)) ∧
    (∀ f, s.drive ≠ .ended (some f)) ∧ ∀ lines f, s.drive ≠ .sending lines (.failed f) := by
  unfold Doomed
  simp only [not_or, not_exists, ne_eq]

theorem not_doomed_of_ended {s : System σ} (hs : s.script = .ended none)
    (hd : s.drive = .ended none) : ¬s.Doomed := by
  rw [not_doomed_iff, hs, hd]
  exact ⟨nofun, nofun, nofun⟩

/-- No move undoes a failure. -/
theorem Doomed.turn {o : Options} {s next : System σ} {frames : List Frame} (h : s.Doomed)
    (ht : Turn o s frames next) : next.Doomed := by
  rcases h with ⟨f, h⟩ | ⟨f, h⟩ | ⟨lines, f, h⟩
  · cases ht with
    | write hs | listen hs | stop hs | take hs => rw [h] at hs; cases hs
    | failScript hs => exact absurd h (hs _)
    | _ => exact Or.inl ⟨f, h⟩
  · cases ht with
    | handle hd | tick hd | await hd | finish hd | send hd | drop hd => rw [h] at hd; cases hd
    | failDrive hd => exact absurd h (hd _)
    | _ => exact Or.inr (Or.inl ⟨f, h⟩)
  · cases ht with
    | handle hd | tick hd | await hd | finish hd => rw [h] at hd; cases hd
    | failDrive hd => exact Or.inr (Or.inl ⟨_, rfl⟩)
    | send hd | drop hd =>
      rw [h] at hd
      cases hd
      exact Or.inr (Or.inr ⟨_, f, rfl⟩)
    | _ => exact Or.inr (Or.inr ⟨lines, f, h⟩)

theorem Doomed.follow {o : Options} {moves : List Move} {s last : System σ} (h : s.Doomed)
    (hf : s.follow o moves = some last) : last.Doomed := by
  induction moves generalizing s with
  | nil =>
    cases hf
    exact h
  | cons m rest ih =>
    obtain ⟨next, hm, hf⟩ := Option.bind_eq_some_iff.mp hf
    exact ih (h.turn (turn_of_step hm)) hf

/-! ## Courses of moves -/

theorem follow_append (o : Options) (moves more : List Move) (s : System σ) :
    s.follow o (moves ++ more) = (s.follow o moves).bind (follow o more) := by
  induction moves generalizing s with
  | nil => rfl
  | cons m rest ih =>
    rw [List.cons_append, follow, follow, Option.bind_assoc]
    exact congrArg _ (funext ih)

/-- The frames that the session writes in the course of moves, oldest first. -/
def written (o : Options) : List Move → System σ → List Frame
  | [], _ => []
  | m :: rest, s => s.writes m ++ ((s.step o m).map (written o rest)).getD []

theorem Turn.framesOut {o : Options} {s next : System σ} {frames : List Frame}
    (ht : Turn o s frames next) : next.framesOut = s.framesOut + frames.length := by
  cases ht <;> rfl

/-- The counter of the session is the number of frames that it wrote. -/
theorem framesOut_follow {o : Options} {moves : List Move} {s last : System σ}
    (hf : s.follow o moves = some last) :
    last.framesOut = s.framesOut + (s.written o moves).length := by
  induction moves generalizing s with
  | nil =>
    cases hf
    rfl
  | cons m rest ih =>
    obtain ⟨next, hm, hf⟩ := Option.bind_eq_some_iff.mp hf
    have hone := (turn_of_step hm).framesOut
    rw [written, hm, Option.map_some, Option.getD_some, List.length_append, ih hf, hone,
      Nat.add_assoc]

/-- What every turn keeps that leads to no failure holds at a good end, of all frames that were
written. -/
theorem follow_induction {o : Options} {P : List Frame → System σ → Prop}
    (hturn : ∀ {sent s frames next}, P sent s → Turn o s frames next → ¬next.Doomed →
      P (sent ++ frames) next)
    {moves : List Move} {sent : List Frame} {s last : System σ} (h : P sent s)
    (hf : s.follow o moves = some last) (hlast : ¬last.Doomed) :
    P (sent ++ s.written o moves) last := by
  induction moves generalizing sent s with
  | nil =>
    cases hf
    rw [written, List.append_nil]
    exact h
  | cons m rest ih =>
    obtain ⟨next, hm, hf⟩ := Option.bind_eq_some_iff.mp hf
    -- a failure on the way would have lasted to the end
    have hnext : ¬next.Doomed := fun hd => hlast (hd.follow hf)
    rw [written, hm, Option.map_some, Option.getD_some, ← List.append_assoc]
    exact ih (hturn h (turn_of_step hm) hnext) hf

end System

end ScriptLink
