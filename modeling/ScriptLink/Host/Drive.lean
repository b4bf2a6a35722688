import ScriptLink.Config.Choice
import ScriptLink.Frame.External
import ScriptLink.HostCall.Operation

/-!
# ScriptLink.Host.Drive — what the host does during a session

* `Driver.handle` takes one event, `Driver.tick` the end of an interval between pings: the lines to be
  sent, in order, and what comes after they are sent.
* A line that is sent before any shutdown must arrive; one that is sent later may be lost, since the
  session may stop as soon as it reads the shutdown.
* The host asks for a shutdown once: when it has enough answers or has sent enough pings in the mode
  `oneshot`, or when the external input is closed and the session is ready.
* `Rehearsal.run` runs a driver on events that are there from the start and events that follow the
  first shutdown.
-/

namespace ScriptLink

/-- What the host hears of. -/
inductive HostEvent where
  /-- The session wrote a line. -/
  | frame (line : String)
  /-- The session hung up. -/
  | scriptClosed
  /-- A line of external input came in. -/
  | external (line : String)
  /-- There is no more external input. -/
  | externalClosed
  deriving DecidableEq, Repr, Inhabited

/-- Why a drive was given up. -/
inductive DriveFault where
  /-- The session reported a failure, in a frame of this kind on this line. -/
  | script (kind : Frame.Kind) (line : String)
  /-- The session was gone before any shutdown, or did not take a line that had to arrive. -/
  | channelClosed
  deriving DecidableEq, Repr, Inhabited

/-- How a fault is worded for the user. -/
def DriveFault.message : DriveFault → String
  | .script kind line => s!"script reported {kind.name}: {line}"
  | .channelClosed => "duplex channel closed before shutdown"

/-- How a driver paces its pings. -/
structure DriveOptions where
  /-- The milliseconds between two pings. -/
  interval : Nat := 300
  /-- How many answers are enough. -/
  pongTarget : Nat := 3
  /-- How many pings are sent at most, answered or not. -/
  maxPings : Nat := 10
  deriving DecidableEq, Repr, Inhabited

/-- What happened during a drive. -/
structure DriveReport where
  /-- The pings that were sent. -/
  pings : Nat
  /-- The answers to pings that came back. -/
  pongs : Nat
  /-- The host calls that were answered, be it with a refusal. -/
  served : Nat
  /-- The reason of the shutdown that was sent or forwarded. -/
  reason : Option String
  /-- The reason that the session gave when it stopped. -/
  acknowledged : Option String
  deriving DecidableEq, Repr, Inhabited

/-- The host's side of a session. -/
structure Driver where
  mode : DriveMode
  options : DriveOptions
  executor : HostCall.Executor
  /-- The session has announced itself. -/
  ready : Bool
  /-- A request to stop was sent or forwarded. -/
  shutdown : Bool
  /-- There is no more external input. -/
  inputClosed : Bool
  report : DriveReport

/-- A line on its way to the session. -/
structure Outgoing where
  line : String
  /-- The drive is given up if the line does not arrive. -/
  required : Bool
  deriving DecidableEq, Repr, Inhabited

/-- What comes after the lines are sent. -/
inductive Sequel where
  /-- The driver waits for the next event. -/
  | proceed
  /-- The drive is over, and it was a success. -/
  | done
  /-- The drive is over, and this is why it failed. -/
  | failed (f : DriveFault)
  deriving DecidableEq, Repr, Inhabited

/-- What a driver does. -/
structure Reaction where
  /-- The driver as it is from now on, also while it still sends. -/
  next : Driver
  /-- The lines to be sent, in order. -/
  sends : List Outgoing := []
  sequel : Sequel := .proceed

namespace Driver

/-- A driver that has neither heard nor sent anything. -/
def start (mode : DriveMode) (options : DriveOptions) (executor : HostCall.Executor) : Driver :=
  ⟨mode, options, executor, false, false, false, ⟨0, 0, 0, none, none⟩⟩

/-- Whether a ping is due when an interval ends: only in the mode `oneshot`, and not after a shutdown. -/
def ticking (d : Driver) : Bool := d.mode == .oneshot && !d.shutdown

/-- Sends a line; it must arrive unless a shutdown was sent. -/
def outgoing (line : String) (d : Driver) : Outgoing := ⟨line, !d.shutdown⟩

/-! ## Shutdown -/

/-- The reason for a shutdown after enough answers. -/
def completedReason : String := "oneshot_completed"

/-- The reason for a shutdown after enough pings, whatever came back. -/
def timeoutReason : String := "oneshot_timeout"

/-- The reason for a shutdown at the end of the external input. -/
def inputClosedReason : String := "process_input_closed"

/-- Asks the session to stop. The request itself may be lost, as it already counts as a shutdown. -/
def requestShutdown (reason : String) (d : Driver) : Reaction :=
  let d := { d with shutdown := true, report.reason := some reason }
  { next := d, sends := [d.outgoing (Frame.shutdownFor reason).encode] }

/-- Asks for a shutdown once the external input is closed and the session is ready. -/
def settle (d : Driver) : Reaction :=
  if d.inputClosed && d.ready && !d.shutdown then d.requestShutdown inputClosedReason
  else { next := d }

/-! ## Pings -/

/-- The line of a ping. It says where it comes from, which a frame does not. -/
def pingLine (seq : Nat) : String :=
  (Value.object [("type", .str Frame.Kind.ping.name), ("seq", .ofNat seq),
    ("from", .str "rust")]).text

/-- Sends a ping, and then asks for a shutdown if there were enough answers or pings. -/
def tick (d : Driver) : Reaction :=
  let seq := d.report.pings + 1
  let ping := d.outgoing (pingLine seq)
  let d := { d with report.pings := seq }
  let r :=
    if d.ready && d.options.pongTarget ≤ d.report.pongs then d.requestShutdown completedReason
    else if d.options.maxPings ≤ seq then d.requestShutdown timeoutReason
    else { next := d }
  { r with sends := ping :: r.sends }

/-! ## Events -/

/-- The answer to a host call; a refusal is one too. -/
def answer (executor : HostCall.Executor) (id payload : Value) : Frame :=
  match executor payload with
  | .ok result => .hostResult id result
  | .error refusal => .hostError id (some (.str refusal.message))

/-- Answers a host call, also after a shutdown. -/
def serve (id payload : Value) (d : Driver) : Reaction :=
  let d := { d with report.served := d.report.served + 1 }
  { next := d, sends := [d.outgoing (answer d.executor id payload).encode] }

/-- Takes a line of the session. Frames that ask nothing of a host, also text and unknown kinds, are passed over. -/
def onFrame (line : String) (d : Driver) : Reaction :=
  match Frame.decode line with
  | .ready _ => { d with ready := true }.settle
  | .pong .. => { next := { d with report.pongs := d.report.pongs + 1 } }
  | .hostCall id payload => d.serve id payload
  | .loadError .. => { next := d, sequel := .failed (.script .loadError line) }
  | .error .. => { next := d, sequel := .failed (.script .error line) }
  | .shutdownAck reason =>
    { next := { d with report.acknowledged := some reason }, sequel := .done }
  | _ => { next := d }

/-- Whether a value asks for a shutdown by its type, whatever else it holds. -/
def isShutdown (v : Value) : Bool :=
  (v.get? "type").bind Value.asString? == some Frame.Kind.shutdown.name

/-- Forwards a line of external input; a request to stop counts as one of the host. -/
def forward (line : String) (d : Driver) : Reaction :=
  let v := Frame.ofExternal line
  let d :=
    if isShutdown v then
      { d with shutdown := true, report.reason := (v.get? "reason").bind Value.asString? }
    else d
  { next := d, sends := [d.outgoing v.text] }

/-- Takes an event. That the session hung up is a success once there was a shutdown. -/
def handle (e : HostEvent) (d : Driver) : Reaction :=
  match e with
  | .frame line => d.onFrame line
  | .scriptClosed => { next := d, sequel := if d.shutdown then .done else .failed .channelClosed }
  | .external line => d.forward line
  | .externalClosed => { d with inputClosed := true }.settle

end Driver

/-! ## Rehearsals -/

/-- How a drive ended. -/
inductive DriveEnding where
  | finished (r : DriveReport)
  | failed (f : DriveFault)
  /-- It did not end: no event is there, and none will come. -/
  | waiting
  deriving DecidableEq, Repr, Inhabited

/-- A driver with the events that are there and those that will follow the first shutdown. -/
structure Rehearsal where
  driver : Driver
  queue : List HostEvent
  /-- The events that follow the first shutdown; without them no more events come. -/
  later : Option (List HostEvent)
  /-- The session takes lines. -/
  connected : Bool
  /-- The lines that arrived. -/
  written : List String

namespace Rehearsal

/-- Whether a line asks for a shutdown, so that the later events follow it. -/
def asksToStop (line : String) : Bool :=
  match Value.ofText? line with
  | some v => Driver.isShutdown v
  | none => false

/-- Sends one line: whether the drive can go on. -/
def send (o : Outgoing) (r : Rehearsal) : Bool × Rehearsal :=
  if r.connected then
    let r := { r with written := r.written ++ [o.line] }
    match r.later with
    | some events =>
      if asksToStop o.line then (true, { r with queue := r.queue ++ events, later := none })
      else (true, r)
    | none => (true, r)
  else (!o.required, r)

/-- Sends lines in turn, up to the first after which the drive cannot go on. -/
def sendAll : List Outgoing → Rehearsal → Bool × Rehearsal
  | [], r => (true, r)
  | o :: rest, r =>
    match r.send o with
    | (false, r) => (false, r)
    | (true, r) => sendAll rest r

/-- What the driver does next: it takes the oldest event, or hears that no more come, or an interval
ends. -/
def next? (r : Rehearsal) : Option (Reaction × Rehearsal) :=
  match r.queue, r.later with
  | e :: rest, _ => some (r.driver.handle e, { r with queue := rest })
  | [], none => some (r.driver.handle .scriptClosed, r)
  | [], some _ => if r.driver.ticking then some (r.driver.tick, r) else none

/-- The lines that arrived and how the drive ended, within so many reactions. -/
def runFor : Nat → Rehearsal → List String × DriveEnding
  | 0, r => (r.written, .waiting)
  | n + 1, r =>
    match r.next? with
    | none => (r.written, .waiting)
    | some (reaction, r) =>
      match { r with driver := reaction.next }.sendAll reaction.sends with
      | (false, r) => (r.written, .failed .channelClosed)
      | (true, r) =>
        match reaction.sequel with
        | .proceed => runFor n r
        | .done => (r.written, .finished r.driver.report)
        | .failed f => (r.written, .failed f)

/-- The most reactions there can be: one for each event, one for each ping, and one for the end. -/
def bound (r : Rehearsal) : Nat :=
  r.queue.length + (r.later.getD []).length + max 1 r.driver.options.maxPings + 1

/-- The lines that arrived and how the drive ended. -/
def run (r : Rehearsal) : List String × DriveEnding := r.runFor r.bound

end Rehearsal

end ScriptLink
