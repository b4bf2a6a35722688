import ScriptLink.Host.Drive
import ScriptLink.Host.Milestone
import ScriptLink.Session.Run

/-!
# ScriptLink.Launch.System — a session and its host side by side

Four threads share a channel and a queue of events: the session; the frame forwarder, which makes
events of what the session writes; the input forwarder, which makes events of external input; and the
driver, which takes the events and writes to the session.

* `System.step` makes one move of one thread, if that thread can move: it writes or takes one line, it
  takes one event, or it ends. A thread that ends hangs up its ends of the queues.
* `System.follow` makes several moves in turn, so that a list of moves is one way in which the threads
  can interleave.
* `System.result?` is what the launch comes to once the session and the driver have ended.
-/

namespace ScriptLink

/-- Where the session stands. -/
inductive ScriptStage where
  /-- It writes frames, and then the verdict counts. -/
  | writing (frames : List Frame) (verdict : Verdict)
  | reading
  /-- It has hung up; without a fault it ended with a shutdown. -/
  | ended (fault : Option SessionFault)

/-- Where the driver stands. -/
inductive DriveStage where
  | waiting
  /-- It sends lines, and then the sequel comes. -/
  | sending (lines : List Outgoing) (sequel : Sequel)
  /-- It has hung up; without a fault the drive was a success. -/
  | ended (fault : Option DriveFault)
  deriving DecidableEq, Repr, Inhabited

/-- A session, its host, and what is between them. -/
structure System (σ : Type) where
  dispatcher : Dispatcher σ
  /-- The lines that the session read. -/
  framesIn : Nat
  /-- The lines that the session wrote. -/
  framesOut : Nat
  script : ScriptStage
  /-- The channel; the frame forwarder has the receiving end on the host side. -/
  pair : Pair
  /-- The events that the driver did not take yet. -/
  events : Queue HostEvent
  /-- The lines of external input that were not forwarded yet, while the input forwarder is there. -/
  input : Option (List String)
  driver : Driver
  drive : DriveStage

/-- A move of one thread. -/
inductive Move where
  | session
  /-- The session has waited for a line as long as it may. -/
  | timeout
  /-- A move of the frame forwarder. -/
  | frames
  /-- A move of the input forwarder. -/
  | input
  | driver
  /-- The driver hears that an interval between pings is over. -/
  | tick
  deriving DecidableEq, Repr, Inhabited

/-- What a launch came to, both sides in good order. -/
structure HostOutcome where
  session : Report
  drive : DriveReport
  deriving DecidableEq, Repr, Inhabited

/-- Which side is to blame for a launch that failed, and why. -/
inductive LaunchFault where
  | session (f : SessionFault)
  | drive (f : DriveFault)
  deriving DecidableEq, Repr, Inhabited

/-- The wording of a failure is that of the side to blame. -/
def LaunchFault.message : LaunchFault → String
  | session f => f.message
  | drive f => f.message

namespace System

/-- The beginning: the session is about to announce itself, and the driver waits. -/
def start (dispatcher : Dispatcher σ) (driver : Driver) (input : Option (List String)) :
    System σ where
  dispatcher := dispatcher
  framesIn := 0
  framesOut := 0
  script := .writing [dispatcher.ready] .proceed
  pair := .empty
  events := .empty
  input := input
  driver := driver
  drive := .waiting

/-! ## The session -/

/-- Ends the session, which hangs up both of its ends. -/
def endScript (fault : Option SessionFault) (s : System σ) : System σ :=
  { s with script := .ended fault, pair := s.pair.close }

/-- What becomes of the session once its replies are written. -/
def conclude (v : Verdict) (s : System σ) : System σ :=
  match v with
  | .proceed => { s with script := .reading }
  | .stop => s.endScript none
  | .failure (.failed _) => { s with script := .reading }
  | .failure (.fatal why) => s.endScript (some (.fatal why))

/-- The session takes a line and is about to write the replies. -/
def takeLine (o : Options) (line : String) (s : System σ) : System σ :=
  let r := s.dispatcher.dispatch (o.clock s.framesIn) (Frame.decode line)
  { s with
    dispatcher := r.next
    framesIn := s.framesIn + 1
    script := .writing r.replies r.verdict }

/-- The session writes a frame, takes a line, or ends. -/
def stepSession (o : Options) (s : System σ) : Option (System σ) :=
  match s.script with
  | .ended _ => none
  | .writing [] v => some (s.conclude v)
  | .writing (f :: rest) v =>
    match s.pair.send f.encode with
    | (.ok _, pair) =>
      some { s with pair, framesOut := s.framesOut + 1, script := .writing rest v }
    | (.error e, _) => some (s.endScript (some (.channel e)))
  | .reading =>
    match s.pair.receive none with
    | (.line text, pair) => some ({ s with pair }.takeLine o text)
    | (.failed e, _) => some (s.endScript (some (.channel e)))
    | (.waiting, _) => none

/-- The session gives up waiting. It can only do so while there is nothing to be read. -/
def stepTimeout (o : Options) (s : System σ) : Option (System σ) :=
  match s.script, o.limit, s.pair.receive none with
  | .reading, some limit, (.waiting, _) =>
    some (s.endScript (some (.channel (.timedOut limit))))
  | _, _, _ => none

/-! ## The forwarders -/

/-- The frame forwarder passes one line on, or ends when the session or the driver has hung up. -/
def stepFrames (s : System σ) : Option (System σ) :=
  if s.pair.toHost.receiverOpen then
    match s.pair.hostReceive none with
    | (.line text, pair) =>
      match s.events.send? (.frame text) with
      | some events => some { s with pair, events }
      | none => some { s with pair := pair.hostCloseReceiver }
    | (.failed _, pair) =>
      some { s with
        pair := pair.hostCloseReceiver
        events := (s.events.send? .scriptClosed).getD s.events }
    | (.waiting, _) => none
  else none

/-- The input forwarder passes one line on, or ends when there is none or the driver has hung up. -/
def stepInput (s : System σ) : Option (System σ) :=
  match s.input with
  | none => none
  | some [] =>
    some { s with input := none, events := (s.events.send? .externalClosed).getD s.events }
  | some (line :: rest) =>
    match s.events.send? (.external line) with
    | some events => some { s with input := some rest, events }
    | none => some { s with input := none }

/-! ## The driver -/

/-- Ends the drive, which hangs up to the session and to both forwarders. -/
def endDrive (fault : Option DriveFault) (s : System σ) : System σ :=
  { s with
    drive := .ended fault
    pair := s.pair.hostCloseSender
    events := s.events.closeReceiver }

/-- The driver begins what it does. -/
def react (r : Reaction) (s : System σ) : System σ :=
  { s with driver := r.next, drive := .sending r.sends r.sequel }

/-- The driver takes an event, sends a line, or ends. -/
def stepDriver (s : System σ) : Option (System σ) :=
  match s.drive with
  | .ended _ => none
  | .waiting => s.events.take?.map fun (e, events) => { s with events }.react (s.driver.handle e)
  | .sending [] .proceed => some { s with drive := .waiting }
  | .sending [] .done => some (s.endDrive none)
  | .sending [] (.failed f) => some (s.endDrive (some f))
  | .sending (o :: rest) sequel =>
    match s.pair.hostSend o.line with
    | (.ok _, pair) => some { s with pair, drive := .sending rest sequel }
    | (.error _, _) =>
      if o.required then some (s.endDrive (some .channelClosed))
      else some { s with drive := .sending rest sequel }

/-- An interval between pings ends while the driver waits. -/
def stepTick (s : System σ) : Option (System σ) :=
  match s.drive with
  | .waiting => if s.driver.ticking then some (s.react s.driver.tick) else none
  | _ => none

/-! ## All together -/

/-- One move; nothing where its thread cannot move. -/
def step (o : Options) (m : Move) (s : System σ) : Option (System σ) :=
  match m with
  | .session => s.stepSession o
  | .timeout => s.stepTimeout o
  | .frames => s.stepFrames
  | .input => s.stepInput
  | .driver => s.stepDriver
  | .tick => s.stepTick

/-- Moves in turn, each of which its thread can make. -/
def follow (o : Options) : List Move → System σ → Option (System σ)
  | [], s => some s
  | m :: rest, s => (s.step o m).bind (follow o rest)

/-- The report of the session as it stands. -/
def report (s : System σ) : Report := s.dispatcher.report s.framesIn s.framesOut

/-- What a launch comes to: a session that merely saw its host go away is not to blame. -/
def settle (s : System σ) (script : Option SessionFault) (drive : Option DriveFault) :
    Except LaunchFault HostOutcome :=
  match script, drive with
  | none, none => .ok ⟨s.report, s.driver.report⟩
  | none, some f => .error (.drive f)
  | some (.channel .closed), some f => .error (.drive f)
  | some f, _ => .error (.session f)

/-- What the launch came to, once the session and the driver have ended. -/
def result? (s : System σ) : Option (Except LaunchFault HostOutcome) :=
  match s.script, s.drive with
  | .ended script, .ended drive => some (s.settle script drive)
  | _, _ => none

/-- What the host reports in the end, of the drive first. -/
def milestones (s : System σ) : List Milestone :=
  match s.script, s.drive with
  | .ended script, .ended drive =>
    [match drive with
      | none => .driveFinished
      | some _ => .driveFailed,
    match script with
      | none => .sessionFinished s.report.reason
      | some f => .sessionFailed f.message]
  | _, _ => []

end System

end ScriptLink
