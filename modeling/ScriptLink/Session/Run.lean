import ScriptLink.Channel.Slot
import ScriptLink.Frame.Decode
import ScriptLink.Session.Dispatch

/-!
# ScriptLink.Session.Run — a session over a channel

* `Session.bootstrap` begins a session and then takes the channel from its slot, so that a session
  that does not begin leaves the slot as it is.
* `Session.run` writes the ready frame and then reads a line, dispatches its frame and writes the
  replies, one line after the other, until a shutdown, a fatal failure of a handler, or a failure of
  the channel.
* `Report.of` sums up a session that ended with a shutdown.
-/

namespace ScriptLink

/-- What a session is given beside its channel. -/
structure Options where
  /-- How many milliseconds a read waits; without it a read waits as long as it takes. -/
  limit : Option Nat
  /-- The time, in Unix milliseconds, when so many lines were read before the present one. -/
  clock : Nat → UInt64

/-- A session over its channel. -/
structure Session (σ : Type) where
  handle : Handle Transport
  dispatcher : Dispatcher σ
  /-- The lines that were read. -/
  framesIn : Nat
  /-- The lines that were written. -/
  framesOut : Nat

/-- How far a session got. -/
inductive Ending where
  /-- It ended with a shutdown. -/
  | stopped
  | failed (f : SessionFault)
  /-- It has not ended: there is no line to be read, and nothing limits the wait. -/
  | waiting
  deriving DecidableEq, Repr, Inhabited

/-- What a verdict makes of a session whose replies are written. -/
def Verdict.ending? : Verdict → Option Ending
  | .proceed => none
  | .stop => some .stopped
  | .failure (.failed _) => none
  | .failure (.fatal why) => some (.failed (.fatal why))

/-- What is told of a session that ended with a shutdown. -/
structure Report where
  reason : String
  framesIn : Nat
  framesOut : Nat
  state : SessionState
  deriving DecidableEq, Repr, Inhabited

/-- The report of a session with this dispatcher and these counters. -/
def Dispatcher.report (framesIn framesOut : Nat) (d : Dispatcher σ) : Report :=
  ⟨d.phase.reason?.getD defaultReason, framesIn, framesOut, d.scene.state⟩

namespace Session

/-- Begins a session over the channel that a slot holds, under the resource number `rid`: the session
or why there is none, what happened, and the slot afterwards. -/
def bootstrap (seed : Seed) (l : Loader σ) (memory : σ) (rid : UInt32) (slot : Slot Transport) :
    Except SessionFault (Session σ) × Trail σ × Slot Transport :=
  match Dispatcher.bootstrap seed l memory with
  | (.error e, trail) => (.error e, trail, slot)
  | (.ok dispatcher, trail) =>
    match slot.take rid with
    | .error e => (.error (.channel e), trail, slot)
    | .ok (handle, slot) => (.ok ⟨handle, dispatcher, 0, 0⟩, trail, slot)

/-- The session with its channel in another state. A session names its own resource only, so its
handle never refuses it. -/
def withTransport (t : Transport) (s : Session σ) : Session σ := { s with handle.transport := t }

/-- Waits for a line. -/
def read (limit : Option Nat) (s : Session σ) : Reading × Session σ :=
  let (answer, t) := s.handle.transport.receive limit
  (answer, s.withTransport t)

/-! ## Writing -/

/-- Writes a frame: the failure, if it failed. -/
def write (f : Frame) (s : Session σ) : Option ChannelError × Session σ :=
  match s.handle.transport.send f.encode with
  | (.ok _, t) => (none, { s.withTransport t with framesOut := s.framesOut + 1 })
  | (.error e, t) => (some e, s.withTransport t)

/-- Writes frames in turn, up to the first that fails. -/
def writeAll : List Frame → Session σ → Option ChannelError × Session σ
  | [], s => (none, s)
  | f :: rest, s =>
    match s.write f with
    | (some e, s) => (some e, s)
    | (none, s) => writeAll rest s

/-! ## Running -/

/-- The session while it takes a line, before the replies are written. -/
def taking (r : Response σ) (s : Session σ) : Session σ :=
  { s with dispatcher := r.next, framesIn := s.framesIn + 1 }

/-- Takes one line: how the session ended, if it did. -/
def turn (o : Options) (line : String) (s : Session σ) : Option Ending × Session σ :=
  let r := s.dispatcher.dispatch (o.clock s.framesIn) (Frame.decode line)
  match (s.taking r).writeAll r.replies with
  | (some e, after) => (some (.failed (.channel e)), after)
  | (none, after) => (r.verdict.ending?, after)

/-- How much there is to be read without waiting. -/
def pending (s : Session σ) : Nat := s.handle.transport.pending

theorem pending_write (f : Frame) (s : Session σ) : (s.write f).2.pending = s.pending := by
  have h := Transport.pending_send f.encode s.handle.transport
  unfold write
  split <;> rename_i heq <;> rw [heq] at h <;> exact h

theorem pending_writeAll (fs : List Frame) (s : Session σ) :
    (s.writeAll fs).2.pending = s.pending := by
  induction fs generalizing s with
  | nil => rfl
  | cons f rest ih =>
    have h := s.pending_write f
    unfold writeAll
    split <;> rename_i heq <;> rw [heq] at h
    · exact h
    · rw [ih]; exact h

theorem pending_turn (o : Options) (line : String) (s : Session σ) :
    (s.turn o line).2.pending = s.pending := by
  unfold turn
  generalize s.dispatcher.dispatch (o.clock s.framesIn) (Frame.decode line) = r
  have h := pending_writeAll r.replies (s.taking r)
  dsimp only
  split <;> rename_i heq <;> rw [heq] at h <;> exact h

theorem pending_read {limit : Option Nat} {line : String} {s after : Session σ}
    (h : s.read limit = (.line line, after)) : after.pending < s.pending := by
  unfold read at h
  cases hr : s.handle.transport.receive limit with
  | mk answer t =>
    rw [hr] at h
    injection h with h1 h2
    subst h1 h2
    exact Transport.pending_receive hr

/-- Takes at most `n` lines, until the session ends or waits. -/
def pumpFor (o : Options) : Nat → Session σ → Ending × Session σ
  | 0, s => (.waiting, s)
  | n + 1, s =>
    match s.read o.limit with
    | (.waiting, s) => (.waiting, s)
    | (.failed e, s) => (.failed (.channel e), s)
    | (.line text, s) =>
      match s.turn o text with
      | (some ending, s) => (ending, s)
      | (none, s) => pumpFor o n s

/-- Takes lines until the session ends or waits; there are not more than it can read. -/
def pump (o : Options) (s : Session σ) : Ending × Session σ := s.pumpFor o (s.pending + 1)

/-- Any number of turns beyond the lines that can be read is the same. -/
theorem pumpFor_eq_pumpFor (o : Options) {m n : Nat} {s : Session σ} (hm : s.pending < m)
    (hn : s.pending < n) : s.pumpFor o m = s.pumpFor o n := by
  induction m generalizing n s with
  | zero => omega
  | succ m ih =>
    cases n with
    | zero => omega
    | succ n =>
      simp only [pumpFor]
      cases hr : s.read o.limit with
      | mk answer taken =>
        cases answer with
        | waiting => rfl
        | failed e => rfl
        | line text =>
          have less := pending_read hr
          have same := pending_turn o text taken
          dsimp only
          cases ht : taken.turn o text with
          | mk ending after =>
            rw [ht] at same
            cases ending with
            | some e => rfl
            | none =>
              dsimp only at same ⊢
              exact ih (by omega) (by omega)

/-- Runs a session from its ready frame on. -/
def run (o : Options) (s : Session σ) : Ending × Session σ :=
  match s.write s.dispatcher.ready with
  | (some e, s) => (.failed (.channel e), s)
  | (none, s) => s.pump o

end Session

/-- The report of a session that has ended. -/
def Report.of (s : Session σ) : Report := s.dispatcher.report s.framesIn s.framesOut

end ScriptLink
