import ScriptLink.Config.Basic

/-!
# ScriptLink.Config.Layer — sources of settings laid over each other

Files, variables and flags give their settings as an object, which is a layer. Layers are laid over each
other first, and only what is left on top must be of the right type.

* `Value.cover` lays one value over another: objects are joined member by member, and anything else, also
  `null`, hides what is below.
* `Config.ofLayers?` is the configuration, unless a value on top is of another type; `null` counts as
  absent.
-/

namespace ScriptLink

namespace Value

/-- The members of a value; none of a value that is no object. -/
def members : Value → List (String × Value)
  | .obj ms => ms
  | _ => []

mutual

/-- The upper value over the lower one. -/
def cover (lower : Value) : Value → Value
  | .obj upper => .obj (coverMembers lower.members upper)
  | upper => upper

/-- The members of an object over those of the lower one, one after the other. -/
def coverMembers (lower : List (String × Value)) : List (String × Value) → List (String × Value)
  | [] => lower
  | (key, v) :: rest =>
    coverMembers (insertMember key (cover ((lower.lookup key).getD .null) v) lower) rest

end

end Value

/-- The settings of one source, as an object. -/
abbrev Layer : Type := Value

namespace Layer

def empty : Layer := .obj []

/-- The layer with one setting. -/
def single (name : String) (v : Value) : Layer := .obj [(name, v)]

/-- The last layer over all before it. -/
def stack (layers : List Layer) : Layer := layers.foldl Value.cover empty

@[simp] theorem stack_concat (layers : List Layer) (top : Layer) :
    stack (layers ++ [top]) = Value.cover (stack layers) top := by
  simp [stack]

end Layer

namespace Config

/-- A setting that may be absent but must be of its type. -/
def setting? (read : Value → Option α) (name : String) (l : Layer) : Option (Option α) :=
  match (l.get? name).bind Value.present? with
  | none => some none
  | some v => (read v).map some

/-- A choice: one of its names, or a table with a name for its only key and `null` for its value. -/
def choice? (ofName? : String → Option α) : Value → Option α
  | .str name => ofName? name
  | .obj [(name, .null)] => ofName? name
  | _ => none

/-- The configuration of one layer, unless a setting in it is of another type. -/
def ofLayer? (l : Layer) : Option Config := do
  let logFilter ← setting? Value.asString? "log_filter" l
  let logFormat ← setting? (choice? LogFormat.ofName?) "log_format" l
  let target ← setting? Value.asString? "target" l
  let runtime ← setting? Value.asString? "runtime_config" l
  let readTimeout ← setting? Value.asWord? "read_timeout_ms" l
  let segments ← setting? Value.asString? "fallback_segments" l
  let roots ← setting? Value.asString? "search_roots" l
  let mode ← setting? (choice? DriveMode.ofName?) "drive_mode" l
  let traceFrames ← setting? Value.asBool? "trace_frames" l
  return { logFilter, logFormat, target, runtime, readTimeout, segments, roots, mode, traceFrames }

/-- The configuration of several layers, the topmost last. -/
def ofLayers? (layers : List Layer) : Option Config := ofLayer? (Layer.stack layers)

end Config

end ScriptLink
