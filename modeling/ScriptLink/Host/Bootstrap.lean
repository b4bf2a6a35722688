import ScriptLink.Argument.Settings
import ScriptLink.Argument.Split
import ScriptLink.Config.SettingsFile
import ScriptLink.Config.Variable
import ScriptLink.Host.Milestone
import ScriptLink.Session.State
import ScriptLink.Target.Resolve

/-!
# ScriptLink.Host.Bootstrap — from arguments and surroundings to the settings of a host

* `Config.gather?` is the configuration of a process: settings of files lie below those of variables,
  and these below flags.
* `HostSettings.ofConfig` sets up telemetry and finds the target of a configuration: that of the runtime
  configuration goes before that of the configuration itself, and relative targets are searched in the working
  directory and then in the roots. The first stage that fails is the failure of all.
* Whether telemetry can be set up depends on a parser of filters and on what else runs in the process. So it is
  a function of the configuration that a `Startup` brings along, with the directory in which the process stands.
-/

namespace ScriptLink

/-- What a host finds around itself. -/
structure Surroundings where
  environment : List (String × String)
  /-- The files, and the working directory. -/
  tree : FileTree
  deriving DecidableEq, Repr, Inhabited

/-- Why telemetry could not be set up. -/
inductive TelemetryFault where
  /-- The filter of log lines does not read as one. -/
  | filter (why : String)
  /-- The process has another subscriber of events already. -/
  | subscriber (why : String)
  deriving DecidableEq, Repr, Inhabited

def TelemetryFault.message : TelemetryFault → String
  | filter why => "invalid log filter: " ++ why
  | subscriber why => "failed to install telemetry subscriber: " ++ why

/-- What the process offers to a host that begins. -/
structure Startup where
  telemetry : Config → Except TelemetryFault Unit
  /-- The files seen from the working directory, or why there is no such directory. -/
  place : Except String FileSystem

/-- A process in which all stages before the target succeed. -/
def Startup.sound (fs : FileSystem) : Startup := ⟨fun _ => .ok (), .ok fs⟩

instance : Coe FileTree Startup := ⟨fun t => .sound t⟩

/-- Why a host could not begin, by the stage that failed. -/
inductive BootstrapFault where
  | configuration
  | telemetry (f : TelemetryFault)
  | runtimeConfig (e : Json.ReadError)
  | missingTarget
  | workingDirectory (why : String)
  | target (f : TargetFault)

def BootstrapFault.message : BootstrapFault → String
  | configuration => "failed to load configuration"
  | telemetry f => "failed to initialise telemetry: " ++ f.message
  | runtimeConfig e =>
    let what := match e with
      | .ended => "the text ends early"
      | .malformed => "the text is not JSON"
      | .unsuitable m => m.message
    "malformed runtime configuration: " ++ what
  | missingTarget => "no target specifier configured; pass --target or set DUPLEX_TARGET"
  | workingDirectory why => "working directory is unavailable: " ++ why
  | target f => f.message

/-! ## Configuration -/

namespace Config

/-- The layers of files: of the one that a flag names, which must be there, or else of the first that is
found. -/
def fileLayers? (s : Argument.Settings) (around : Surroundings) : Option (List Layer) :=
  match s.configPath with
  | some path => SettingsFile.chain? around.tree path
  | none => SettingsFile.first? around.tree (SettingsFile.candidates around.environment)

/-- The files that may hold settings. -/
def settingsPaths (s : Argument.Settings) (around : Surroundings) : List String :=
  match s.configPath with
  | some path => [path]
  | none => SettingsFile.candidates around.environment

/-- The configuration that flags and surroundings give. -/
def gather? (flags : List Argument) (around : Surroundings) : Option Config := do
  let s ← Argument.settings? flags
  let files ← fileLayers? s around
  ofLayers? (files ++ [Variable.layer around.environment, s.layer])

end Config

/-! ## Settings -/

/-- All that a host needs to launch a session. -/
structure HostSettings where
  config : Config
  seed : Seed
  deriving DecidableEq, Repr, Inhabited

namespace HostSettings

/-- Where relative targets are searched: in the working directory, and in the roots seen from there. -/
def search (config : Config) (working : String) : TargetSearch :=
  ⟨working, config.searchRoots.map (Path.join working)⟩

/-- The target as it was given. -/
def rawTarget? (config : Config) (runtime : RuntimeConfig) : Option String :=
  runtime.target?.or config.target?

/-- The paths at which a relative target is looked for. -/
def targetPaths (config : Config) (working : String) : List String :=
  match config.runtimeConfig with
  | .ok runtime =>
    match rawTarget? config runtime with
    | some raw => (search config working).candidates raw
    | none => []
  | .error _ => []

/-- The seed of a configuration, where the session gets the arguments `args`. The working directory is not
asked for unless there is a target. -/
def seedOf (config : Config) (args : List String) (place : Except String FileSystem) :
    Except BootstrapFault Seed :=
  match config.runtimeConfig with
  | .error e => .error (.runtimeConfig e)
  | .ok runtime =>
    match rawTarget? config runtime with
    | none => .error .missingTarget
    | some raw =>
      match place with
      | .error why => .error (.workingDirectory why)
      | .ok fs =>
        match (search config fs.working).resolve fs raw with
        | .error f => .error (.target f)
        | .ok target => .ok ⟨some target, runtime.modules, runtime.factors, args⟩

/-- The settings of a configuration, where the session gets the arguments `args`. -/
def ofConfig (config : Config) (args : List String) (startup : Startup) :
    Except BootstrapFault HostSettings :=
  match startup.telemetry config with
  | .error f => .error (.telemetry f)
  | .ok () => (seedOf config args startup.place).map (⟨config, ·⟩)

/-- The settings of a process with the arguments `args`, its name the first of them. -/
def ofArguments (args : List Argument) (around : Surroundings) (startup : Startup) :
    Except BootstrapFault HostSettings :=
  let (flags, others) := Argument.split args
  match Config.gather? flags.tail around with
  | none => .error .configuration
  | some config => ofConfig config others startup

/-- What is reported of the beginning of a host. -/
def milestones : Except BootstrapFault HostSettings → List Milestone
  | .ok _ => [.bootstrapStarting, .bootstrapSucceeded]
  | .error _ => [.bootstrapStarting, .bootstrapFailed]

end HostSettings

end ScriptLink
