import ScriptLink.Host.Bootstrap
import ScriptLink.Launch.Schedule
import ScriptLink.Module.Builtin

/-!
# ScriptLink.Launch.Run — a host from its settings to its end

* `Launch.run` begins a session, runs it beside its driver, and says what came of it and what the host
  reports.
* `Launch.inputLines` are the lines of external input that are forwarded: those before the first that
  is not valid UTF-8, blank ones left out.
-/

namespace ScriptLink

/-- What a host brings to a launch. -/
structure HostParts (σ : Type) where
  importer : Importer σ
  memory : σ
  executor : HostCall.Executor
  options : DriveOptions
  input : List String

namespace Launch

/-- The lines of external input that are forwarded. -/
def inputLines (bytes : List UInt8) : List String :=
  ((Stream.arrivals bytes).filterMap Except.toOption).filter fun line => !Text.blank line

/-- How the session waits and reads the time. -/
def options (config : Config) (clock : Nat → UInt64) : Options := ⟨config.limit?, clock⟩

/-- The lines that the input forwarder has; without the mode `persistent` there is none. -/
def input (config : Config) (parts : HostParts σ) : Option (List String) :=
  match config.driveMode with
  | .persistent => some parts.input
  | .oneshot => none

/-- The system with which a launch begins, or why its session does not. -/
def start (settings : HostSettings) (parts : HostParts σ) : Except SessionFault (System σ) :=
  let config := settings.config
  let loader : Loader σ := ⟨parts.importer, config.fallbackSegments⟩
  match (Dispatcher.bootstrap settings.seed loader parts.memory).1 with
  | .error f => .error f
  | .ok dispatcher =>
    .ok (.start dispatcher (.start config.driveMode parts.options parts.executor)
      (input config parts))

/-- Launches a session and follows it for at most so many rounds: what came of it, if it ended, and what
the host reports. -/
def run (fuel : Nat) (settings : HostSettings) (clock : Nat → UInt64) (parts : HostParts σ) :
    Option (Except LaunchFault HostOutcome) × List Milestone :=
  match start settings parts with
  | .error f => (some (.error (.session f)), [.sessionFailed f.message])
  | .ok system =>
    let target := system.dispatcher.scene.state.target
    let last := ((Course.start system).run (options settings.config clock) fuel).system
    (last.result?, .sessionStarted target :: last.milestones)

/-- What the host brings along by itself, with some external input. -/
def builtinParts (input : List String) : HostParts Memory :=
  ⟨Builtin.registry.importer, .empty, HostCall.execute, {}, input⟩

end Launch

/-! ## Hosts -/

inductive HostFault where
  | bootstrap (f : BootstrapFault)
  | launch (f : LaunchFault)

def HostFault.message : HostFault → String
  | bootstrap f => f.message
  | launch f => f.message

/-- The line that reports a failure to the user. -/
def HostFault.report (f : HostFault) : String := "duplexd: " ++ f.message

/-- A host from the outcome of its start-up on: what came of it, and all that it reports. -/
def Launch.host (fuel : Nat) (settings : Except BootstrapFault HostSettings)
    (clock : Nat → UInt64) (parts : HostParts σ) :
    Option (Except HostFault HostOutcome) × List Milestone :=
  match settings with
  | .error f => (some (.error (.bootstrap f)), HostSettings.milestones settings)
  | .ok s =>
    let (result, milestones) := Launch.run fuel s clock parts
    (result.map (Except.mapError HostFault.launch), HostSettings.milestones settings ++ milestones)

end ScriptLink
