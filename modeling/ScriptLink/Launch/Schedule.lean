import ScriptLink.Launch.System

/-!
# ScriptLink.Launch.Schedule — one fair way to interleave the threads

Threads take turns in rounds: in each, every thread that can move moves once. Time is counted in
rounds, `Course.pace` of them a millisecond. When no thread can move, time passes until the next tick
of the driver or until the session gives up waiting, whichever comes first. The driver takes the events
that are there before it hears a tick.
-/

namespace ScriptLink

/-- A system and the time. -/
structure Course (σ : Type) where
  system : System σ
  /-- The time, in rounds. -/
  now : Nat
  /-- When the driver hears the next tick. -/
  nextTick : Nat
  scriptMoved : Nat

namespace Course

/-- How many rounds a millisecond has. -/
def pace : Nat := 200

/-- The course that begins now; the first tick is one interval away. -/
def start (s : System σ) : Course σ := ⟨s, 0, s.driver.options.interval * pace, 0⟩

/-- The threads, in the order of their turns. -/
def threads : List Move := [.session, .frames, .input, .driver]

/-- The turn of one thread, and whether it could move. -/
def turn (o : Options) (m : Move) (c : Course σ) : Bool × Course σ :=
  match c.system.step o m with
  | some system =>
    (true, { c with system, scriptMoved := if m = .session then c.now else c.scriptMoved })
  | none => (false, c)

/-- The turns of threads, and whether any could move. -/
def turns (o : Options) : List Move → Course σ → Bool × Course σ
  | [], c => (false, c)
  | m :: rest, c =>
    let (moved, c) := c.turn o m
    let (others, c) := turns o rest c
    (moved || others, c)

/-- When the driver hears a tick, if it waits for nothing else. -/
def tickTime? (o : Options) (c : Course σ) : Option Nat :=
  if c.system.events.items.isEmpty then (c.system.step o .tick).map fun _ => c.nextTick else none

/-- When the session gives up, if it waits. -/
def timeoutTime? (o : Options) (c : Course σ) : Option Nat :=
  (c.system.step o .timeout).bind fun _ => o.limit.map fun limit => c.scriptMoved + limit * pace

/-- What happens next if no thread moves, and when. -/
def due? (o : Options) (c : Course σ) : Option (Move × Nat) :=
  match c.tickTime? o, c.timeoutTime? o with
  | some t, some u => if t ≤ u then some (.tick, t) else some (.timeout, u)
  | some t, none => some (.tick, t)
  | none, some u => some (.timeout, u)
  | none, none => none

/-- What was due happens, and the time is that at which it was. -/
def meet (o : Options) (m : Move) (t : Nat) (c : Course σ) : Course σ :=
  let c := { c with now := max c.now t }
  match c.system.step o m with
  | some system =>
    let nextTick :=
      if m = .tick then c.nextTick + c.system.driver.options.interval * pace else c.nextTick
    { c with system, nextTick }
  | none => c

/-- One round and what is due after it; nothing if nothing can happen any more. -/
def round? (o : Options) (c : Course σ) : Option (Course σ) :=
  let (moved, c) := c.turns o threads
  let c := { c with now := c.now + 1 }
  match c.due? o with
  | some (m, t) => if moved && c.now < t then some c else some (c.meet o m t)
  | none => if moved then some c else none

/-- At most so many rounds, until the session and the driver have ended. -/
def run (o : Options) : Nat → Course σ → Course σ
  | 0, c => c
  | n + 1, c =>
    if c.system.result?.isSome then c
    else
      match c.round? o with
      | some c => run o n c
      | none => c

end Course

end ScriptLink
