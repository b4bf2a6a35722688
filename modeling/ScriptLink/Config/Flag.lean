import ScriptLink.Config.Layer

/-!
# ScriptLink.Config.Flag — the flags of the command line

Every setting has a flag, and one more flag names the file with settings. All but one take a value.

* `Flag.ofName?` is the flag of a name; `ofName?_name`: the name of a flag leads back to it.
* `Flag.value?` is the value of a setting as it was typed, unless it does not suit the setting.
-/

namespace ScriptLink

/-- A flag that names a setting. -/
inductive Flag where
  | configPath
  | logFilter
  | logFormat
  | target
  | runtimeConfig
  | readTimeout
  | fallbackSegments
  | searchRoots
  | driveMode
  | traceFrames
  deriving DecidableEq, Repr, Inhabited

namespace Flag

def all : List Flag :=
  [configPath, logFilter, logFormat, target, runtimeConfig, readTimeout, fallbackSegments,
    searchRoots, driveMode, traceFrames]

def name : Flag → String
  | configPath => "--config-path"
  | logFilter => "--log-filter"
  | logFormat => "--log-format"
  | target => "--target"
  | runtimeConfig => "--runtime-config"
  | readTimeout => "--read-timeout-ms"
  | fallbackSegments => "--fallback-segments"
  | searchRoots => "--search-roots"
  | driveMode => "--drive-mode"
  | traceFrames => "--trace-frames"

def ofName? (name : String) : Option Flag := all.find? fun f => f.name == name

@[simp] theorem ofName?_name (f : Flag) : ofName? f.name = some f := by cases f <;> decide

theorem name_of_ofName? {name : String} {f : Flag} (h : ofName? name = some f) : f.name = name := by
  simpa using List.find?_some h

/-- All flags but one have a value. -/
def takesValue (f : Flag) : Bool := f != traceFrames

/-- The setting that a flag gives. -/
def setting : Flag → String
  | configPath => "config_path"
  | logFilter => "log_filter"
  | logFormat => "log_format"
  | target => "target"
  | runtimeConfig => "runtime_config"
  | readTimeout => "read_timeout_ms"
  | fallbackSegments => "fallback_segments"
  | searchRoots => "search_roots"
  | driveMode => "drive_mode"
  | traceFrames => "trace_frames"

/-- A number below `2^64` in decimal digits, with a plus in front or without. -/
def typedWord? (s : String) : Option Nat :=
  let ds := match s.toList with
    | '+' :: ds => ds
    | ds => ds
  if ds.isEmpty ∨ ¬ds.all Char.isDigit then none
  else
    let n := Json.digitsValue ds
    if n < 0x10000000000000000 then some n else none

/-- The value of a setting as it was typed, unless it does not suit the setting. -/
def value? (f : Flag) (s : String) : Option Value :=
  match f with
  | logFormat => (LogFormat.ofText? s).map fun v => .str v.name
  | driveMode => (DriveMode.ofText? s).map fun v => .str v.name
  | readTimeout => (typedWord? s).map Value.ofNat
  | traceFrames => none
  | _ => some (.str s)

end Flag

end ScriptLink
