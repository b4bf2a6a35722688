import ScriptLink.Config.Choice
import ScriptLink.Config.Runtime

/-!
# ScriptLink.Config.Basic — the configuration of a host

Every setting may be absent; the accessors say what counts then.

* Lists are texts with commas between their items. Items lose white space at their ends, segments also
  slashes, and empty ones are left out.
* `Config.read` reads a configuration from JSON and skips keys that are not known; an array must hold
  the values of all settings in their order.
-/

namespace ScriptLink

/-- The settings of a host as they were given. -/
structure Config where
  logFilter : Option String
  logFormat : Option LogFormat
  /-- The specifier or path of the target. -/
  target : Option String
  runtime : Option String
  /-- How many milliseconds a session waits for a line. -/
  readTimeout : Option UInt64
  /-- The segments of fallback candidates. -/
  segments : Option String
  /-- The directories in which a relative target is searched. -/
  roots : Option String
  mode : Option DriveMode
  traceFrames : Option Bool
  deriving DecidableEq, Repr, Inhabited

namespace Config

def empty : Config := ⟨none, none, none, none, none, none, none, none, none⟩

/-! ## Accessors -/

/-- The items between commas, each cleaned, without the empty ones. -/
def splitList (clean : String → String) (text : Option String) : List String :=
  match text with
  | none => []
  | some s => ((Text.split ',' s).map clean).filter (· ≠ "")

/-- The text without white space and then slashes at its ends. -/
def cleanSegment (s : String) : String :=
  String.ofList (Text.stripBy (· == '/') (Text.trim s).toList)

/-- The filter of log lines. -/
def filter (c : Config) : String := c.logFilter.getD "info"

/-- The format of log lines. -/
def format (c : Config) : LogFormat := c.logFormat.getD .json

/-- The target without white space around it, unless it is blank. -/
def target? (c : Config) : Option String := c.target.bind Text.trimmed?

/-- How many milliseconds a session waits for a line; zero is no limit. -/
def limit? (c : Config) : Option Nat :=
  c.readTimeout.bind fun n => if n = 0 then none else some n.toNat

/-- The segments of fallback candidates, in order. -/
def fallbackSegments (c : Config) : List String := splitList cleanSegment c.segments

/-- The directories in which a relative target is searched, in order. -/
def searchRoots (c : Config) : List String := splitList Text.trim c.roots

/-- How the session is driven. -/
def driveMode (c : Config) : DriveMode := c.mode.getD .oneshot

/-- Whether frames are logged. -/
def tracing (c : Config) : Bool := c.traceFrames.getD false

/-- The runtime configuration; a blank text is empty. -/
def runtimeConfig (c : Config) : Except Json.ReadError RuntimeConfig :=
  match c.runtime with
  | none => .ok .empty
  | some s => if Text.blank s then .ok .empty else RuntimeConfig.read s

/-! ## JSON -/

/-- The settings as the fields of a record, in the order of an array. -/
def shape : Json.Shape Config where
  fields :=
    [.of "log_filter" (Json.optional Json.text) fun c logFilter => { c with logFilter },
      .of "log_format" (Json.optional (Json.named LogFormat.spellings)) fun c logFormat =>
        { c with logFormat },
      .of "target" (Json.optional Json.text) fun c target => { c with target },
      .of "runtime_config" (Json.optional Json.text) fun c runtime => { c with runtime },
      .of "read_timeout_ms" (Json.optional Json.word) fun c readTimeout => { c with readTimeout },
      .of "fallback_segments" (Json.optional Json.text) fun c segments => { c with segments },
      .of "search_roots" (Json.optional Json.text) fun c roots => { c with roots },
      .of "drive_mode" (Json.optional (Json.named DriveMode.spellings)) fun c mode =>
        { c with mode },
      .of "trace_frames" (Json.optional Json.truth) fun c traceFrames => { c with traceFrames }]
  lenient := true
  complete := true
  expected := "Config"

/-- The configuration that a text describes. -/
def read (s : String) : Except Json.ReadError Config :=
  Json.whole (Json.record shape empty) s.toList

/-- The configuration as a JSON value, settings that are absent being `null`. -/
def toValue (c : Config) : Value :=
  let text (s : Option String) : Value := (s.map Value.str).getD .null
  .obj [("log_filter", text c.logFilter), ("log_format", text (c.logFormat.map LogFormat.name)),
    ("target", text c.target), ("runtime_config", text c.runtime),
    ("read_timeout_ms", (c.readTimeout.map fun n => Value.ofNat n.toNat).getD .null),
    ("fallback_segments", text c.segments), ("search_roots", text c.roots),
    ("drive_mode", text (c.mode.map DriveMode.name)),
    ("trace_frames", (c.traceFrames.map Value.bool).getD .null)]

end Config

end ScriptLink
