import ScriptLink.Json.Printer

/-!
# ScriptLink.Frame.Basic — the frames of the link and their lines

A frame is one line of JSON: an object whose member `type` names the kind.

* `Frame` is the closed set of frames that either side writes; ids and payloads are free JSON.
* `Frame.members` gives the members in the order in which they are written, `type` first, and
  `Frame.encode` is the text of that object.
* An optional member is written as `null` or left out, as its kind has it.
-/

namespace ScriptLink

/-- What a session can do and what it holds, announced once when it starts. -/
structure Capabilities where
  target : String
  exportedHandler : Bool
  globalHandler : Bool
  replyHandler : Bool
  factorHandler : Bool
  modules : List String
  factors : List String
  args : List String
  deriving DecidableEq, Repr, Inhabited

/-- One frame. -/
inductive Frame where
  | ready (c : Capabilities)
  | ping (seq : Option Value)
  /-- The answer to a ping, with the time in Unix milliseconds. -/
  | pong (seq : Value) (time : UInt64)
  | message (id : Option Value) (payload : Value)
  /-- A request from outside the host. -/
  | externalMessage (id : Option Value) (payload : Value)
  | messageResult (id : Option Value) (result : Value)
  /-- The message handler failed, or the request was no good. -/
  | error (id : Option Value) (error : String)
  | load (id : Option Value) (specifier : Option Value)
  | loaded (id : Option Value) (specifier : String) (modules : List String)
  | loadError (id : Option Value) (specifier : Option String) (error : String)
  /-- A request to append auxiliary factors, several or one. -/
  | factors (id : Option Value) (values : Option Value) (value : Option Value)
  | factorsUpdated (id : Option Value) (factors : List String)
  | arguments (id : Option Value) (args : Option Value)
  | argumentsUpdated (id : Option Value) (args : List String)
  | hostCall (id : Value) (payload : Value)
  | hostResult (id : Value) (result : Value)
  | hostError (id : Value) (error : Option Value)
  | shutdown (reason : Option Value)
  | shutdownAck (reason : String)
  /-- The answer to a frame that the session does not handle. -/
  | unknown (received : Value)
  /-- A line that is no JSON. -/
  | text (raw : String)
  deriving Inhabited

namespace Frame

/-! ## Kinds -/

/-- What `type` can name, and the kind of a line that is no JSON. -/
inductive Kind where
  | ready | ping | pong | message | externalMessage | messageResult | error | load | loaded
  | loadError | factors | factorsUpdated | arguments | argumentsUpdated | hostCall | hostResult
  | hostError | shutdown | shutdownAck | unknown | text
  deriving DecidableEq, Repr, Inhabited

/-- The value of `type`. -/
def Kind.name : Kind → String
  | .ready => "ready"
  | .ping => "ping"
  | .pong => "pong"
  | .message => "message"
  | .externalMessage => "external_message"
  | .messageResult => "message_result"
  | .error => "error"
  | .load => "module"
  | .loaded => "module_loaded"
  | .loadError => "module_error"
  | .factors => "mfa"
  | .factorsUpdated => "mfa_updated"
  | .arguments => "runtime_args"
  | .argumentsUpdated => "runtime_args_updated"
  | .hostCall => "rust_call"
  | .hostResult => "rust_call_result"
  | .hostError => "rust_call_error"
  | .shutdown => "shutdown"
  | .shutdownAck => "shutdown_ack"
  | .unknown => "unknown"
  | .text => "text"

def Kind.all : List Kind :=
  [.ready, .ping, .pong, .message, .externalMessage, .messageResult, .error, .load, .loaded,
    .loadError, .factors, .factorsUpdated, .arguments, .argumentsUpdated, .hostCall, .hostResult,
    .hostError, .shutdown, .shutdownAck, .unknown, .text]

def Kind.ofName? (name : String) : Option Kind :=
  Kind.all.find? fun k => k.name == name

@[simp] theorem Kind.ofName?_name (k : Kind) : Kind.ofName? k.name = some k := by
  cases k <;> decide

def kind : Frame → Kind
  | .ready .. => .ready
  | .ping .. => .ping
  | .pong .. => .pong
  | .message .. => .message
  | .externalMessage .. => .externalMessage
  | .messageResult .. => .messageResult
  | .error .. => .error
  | .load .. => .load
  | .loaded .. => .loaded
  | .loadError .. => .loadError
  | .factors .. => .factors
  | .factorsUpdated .. => .factorsUpdated
  | .arguments .. => .arguments
  | .argumentsUpdated .. => .argumentsUpdated
  | .hostCall .. => .hostCall
  | .hostResult .. => .hostResult
  | .hostError .. => .hostError
  | .shutdown .. => .shutdown
  | .shutdownAck .. => .shutdownAck
  | .unknown .. => .unknown
  | .text .. => .text

/-! ## Members -/

/-- A member that is `null` when it is absent. -/
def nullable (name : String) (v : Option Value) : String × Value :=
  (name, v.getD .null)

/-- A member that is left out when it is absent. -/
def omitted (name : String) (v : Option Value) : List (String × Value) :=
  (v.map fun w => (name, w)).toList

/-- The members of a frame beside its kind, in written order. -/
def body : Frame → List (String × Value)
  | .ready c =>
    [("targetSpecifier", .str c.target),
      ("hasExportedHandler", .bool c.exportedHandler),
      ("hasGlobalHandler", .bool c.globalHandler),
      ("hasRustResultHandler", .bool c.replyHandler),
      ("hasMfaUpdateHandler", .bool c.factorHandler),
      ("modules", .strings c.modules),
      ("mfa", .strings c.factors),
      ("args", .strings c.args)]
  | .ping seq => omitted "seq" seq
  | .pong seq time => [("seq", seq), ("at", .ofNat time.toNat)]
  | .message id payload => [nullable "id" id, ("payload", payload)]
  | .externalMessage id payload => [nullable "id" id, ("payload", payload)]
  | .messageResult id result => [nullable "id" id, ("result", result)]
  | .error id why => [nullable "id" id, ("error", .str why)]
  | .load id specifier => [nullable "id" id, nullable "specifier" specifier]
  | .loaded id specifier modules =>
    [nullable "id" id, ("specifier", .str specifier), ("modules", .strings modules)]
  | .loadError id specifier why =>
    nullable "id" id :: (omitted "specifier" (specifier.map .str) ++ [("error", .str why)])
  | .factors id values value =>
    nullable "id" id :: (omitted "values" values ++ omitted "value" value)
  | .factorsUpdated id values => [nullable "id" id, ("mfa", .strings values)]
  | .arguments id args => [nullable "id" id, nullable "args" args]
  | .argumentsUpdated id args => [nullable "id" id, ("args", .strings args)]
  | .hostCall id payload => [("id", id), ("payload", payload)]
  | .hostResult id result => [("id", id), ("result", result)]
  | .hostError id why => ("id", id) :: omitted "error" why
  | .shutdown reason => omitted "reason" reason
  | .shutdownAck reason => [("reason", .str reason)]
  | .unknown received => [("receivedType", received)]
  | .text raw => [("raw", .str raw)]

/-- The members of a frame in written order. -/
def members (f : Frame) : List (String × Value) :=
  ("type", .str f.kind.name) :: f.body

/-- The line of a frame, without its end. -/
def encode (f : Frame) : String := (Value.obj f.members).text

/-- The request to end for a reason. -/
def shutdownFor (reason : String) : Frame := .shutdown (some (.str reason))

end Frame

end ScriptLink
