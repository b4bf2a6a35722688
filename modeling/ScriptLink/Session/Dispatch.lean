import ScriptLink.HostCall.Ledger
import ScriptLink.Module.Loader
import ScriptLink.Session.Fault

/-!
# ScriptLink.Session.Dispatch — what a session does with a frame

* `Dispatcher.bootstrap` imports and installs the target and loads the modules of a seed.
* `Dispatcher.dispatch` takes one frame at a given time: the frames written in answer, what becomes of
  the session, and the dispatcher after it.
* The frames of the calls that a handler makes come before its reply, those of a handler of factors
  after it.
* A handler that the target exports goes before one of the global scope.
-/

namespace ScriptLink

/-- Whether a session was asked to stop, and why. -/
inductive Phase where
  | running
  | shuttingDown (reason : String)
  deriving DecidableEq, Repr, Inhabited

namespace Phase

/-- The reason of a session that was asked to stop. -/
def reason? : Phase → Option String
  | .running => none
  | .shuttingDown reason => some reason

/-- What a phase is called in reports. -/
def name : Phase → String
  | .running => "running"
  | .shuttingDown _ => "shutting_down"

end Phase

/-- What becomes of a session after a frame. -/
inductive Verdict where
  /-- It takes the next frame. -/
  | proceed
  /-- It ends in good order. -/
  | stop
  /-- A handler failed; a fatal failure ends the session, any other leaves it as it is. -/
  | failure (f : HandlerFault)
  deriving DecidableEq, Repr, Inhabited

/-- What a session consists of beside its channel. -/
structure Dispatcher (σ : Type) where
  loader : Loader σ
  /-- The handlers that the target exports; they stay what they are. -/
  exports : Exports σ
  scene : Scene σ
  /-- The calls of handlers that have no reply yet. -/
  calls : Ledger
  phase : Phase

/-- What a dispatcher makes of a frame. -/
structure Response (σ : Type) where
  next : Dispatcher σ
  /-- The frames to be written, in order. -/
  replies : List Frame
  verdict : Verdict

namespace Dispatcher

/-! ## Beginning -/

/-- A session whose target was found, before its modules are loaded. -/
def ofTarget (l : Loader σ) (state : SessionState) (trail : Trail σ) (target : ScriptModule σ) :
    Dispatcher σ :=
  ⟨l, target.exports, Scene.install target ⟨state, .empty, trail⟩, .empty, .running⟩

/-- Begins a session: the dispatcher, or why there is none, and what happened. -/
def bootstrap (seed : Seed) (l : Loader σ) (memory : σ) :
    Except SessionFault (Dispatcher σ) × Trail σ :=
  match SessionState.ofSeed? seed with
  | none => (.error .missingTarget, ⟨[], memory⟩)
  | some state =>
    let search := l.search state.target memory
    let trail := ⟨search.attempts, search.memory⟩
    match search.found with
    | .error e => (.error (.targetImport state.target e), trail)
    | .ok target =>
      let d := ofTarget l state trail target
      let (loaded, scene) := l.preload seed.modules d.scene
      match loaded with
      | .error e => (.error (.load e), scene.trail)
      | .ok () => (.ok { d with scene }, scene.trail)

/-! ## Handlers -/

/-- The handler that messages go to. -/
def messageHandler? (d : Dispatcher σ) : Option (Handler σ Delivery Value) :=
  d.exports.message.or d.scene.globals.message

/-- The handler that replies to calls go to. -/
def replyHandler? (d : Dispatcher σ) : Option (Handler σ HostReply Unit) :=
  d.exports.reply.or d.scene.globals.reply

/-- The handler that hears of new factors. -/
def factorHandler? (d : Dispatcher σ) : Option (Handler σ FactorUpdate Unit) :=
  d.exports.factors.or d.scene.globals.factors

/-- What a session tells of itself: its state, and which handlers there are. Text requests are not announced. -/
def capabilities (d : Dispatcher σ) : Capabilities where
  target := d.scene.state.target
  exportedHandler := d.exports.message.isSome
  globalHandler := d.scene.globals.message.isSome
  replyHandler := d.replyHandler?.isSome
  factorHandler := d.factorHandler?.isSome
  modules := d.scene.state.modules
  factors := d.scene.state.factors
  args := d.scene.state.args

/-- The frame with which a session begins. -/
def ready (d : Dispatcher σ) : Frame := .ready d.capabilities

/-- Runs a handler and enters the calls it makes. -/
def invoke (h : Handler σ ρ α) (request : ρ) (d : Dispatcher σ) : Outcome α × Dispatcher σ :=
  let (outcome, memory) := h request d.scene.state d.scene.trail.memory
  (outcome, { d with calls := d.calls.issueAll outcome.calls, scene.trail.memory := memory })

/-- The frames of the calls that a handler made, also of one that failed. -/
def callFrames (outcome : Outcome α) : List Frame := outcome.calls.map HostCall.frame

/-- Runs a handler that returns nothing; its failure is not answered. -/
def notify (h : Handler σ ρ Unit) (request : ρ) (d : Dispatcher σ) : Response σ :=
  let (outcome, d) := d.invoke h request
  ⟨d, callFrames outcome, match outcome.result with
    | .ok () => .proceed
    | .error f => .failure f⟩

/-! ## Frames -/

/-- Answers with one frame and changes nothing. -/
def reply (f : Frame) (d : Dispatcher σ) : Response σ := ⟨d, [f], .proceed⟩

/-- Answers a ping; the first one brings about a host call. -/
def onPing (now : UInt64) (seq : Option Value) (d : Dispatcher σ) : Response σ :=
  let greeting := d.calls.greet? seq now
  ⟨{ d with calls := d.calls.greet seq now },
    .pong (seq.getD .null) now :: (greeting.map HostCall.frame).toList, .proceed⟩

/-- Runs the handler of messages, or else that of text requests; without either the result is
`null`. -/
def answerMessage (m : Delivery) (d : Dispatcher σ) : Outcome Value × Dispatcher σ :=
  match d.messageHandler? with
  | some h => d.invoke h m
  | none =>
    match d.scene.globals.request with
    | some h => d.invoke h m.payload.plain
    | none => (Outcome.pure .null, d)

/-- Answers a message with the result of its handler, or with its failure. -/
def onMessage (m : Delivery) (d : Dispatcher σ) : Response σ :=
  let (outcome, d) := d.answerMessage m
  match outcome.result with
  | .ok result => ⟨d, callFrames outcome ++ [.messageResult m.id result], .proceed⟩
  | .error f =>
    ⟨d, callFrames outcome ++ [.error m.id f.why], match f with
      | .failed _ => .proceed
      | .fatal _ => .failure f⟩

/-- How a specifier is refused that is absent, blank or no text. -/
def invalidSpecifier : String := "module specifier must be a non-empty string"

/-- Loads a module and answers with all that are there, or with the reason why not. -/
def onLoad (id : Option Value) (specifier : Option Value) (d : Dispatcher σ) : Response σ :=
  match specifier with
  | some (.str text) =>
    if Text.blank text then d.reply (.loadError id (some text) invalidSpecifier)
    else
      let (loaded, scene) := d.loader.loadLive text d.scene
      let d := { d with scene }
      match loaded with
      | .ok () => d.reply (.loaded id text scene.state.modules)
      | .error e => d.reply (.loadError id (some text) e.message)
  | _ => d.reply (.loadError id none invalidSpecifier)

/-- The factors that a frame appends: the strings of `values`, or else of `value`. -/
def contributed (values value : Option Value) : List String :=
  match values.or value with
  | some (.arr items) => items.filterMap Value.asString?
  | some (.str text) => [text]
  | _ => []

/-- Appends factors; a handler hears of it unless there were none. -/
def onFactors (id values value : Option Value) (d : Dispatcher σ) : Response σ :=
  let added := contributed values value
  let state := d.scene.state.extend added
  let d := { d with scene.state := state }
  let updated := Frame.factorsUpdated id state.factors
  match d.factorHandler? with
  | some h =>
    if added.isEmpty then d.reply updated
    else
      let r := d.notify h ⟨id, added, state.factors⟩
      { r with replies := updated :: r.replies }
  | none => d.reply updated

/-- How arguments are refused that are no list of texts. -/
def invalidArguments : String := "runtime_args requires an array of strings"

/-- Replaces the arguments of the session, if they are a list of texts. -/
def onArguments (id args : Option Value) (d : Dispatcher σ) : Response σ :=
  match args.bind Value.asStrings? with
  | some list =>
    let d := { d with scene.state := d.scene.state.replaceArgs list }
    d.reply (.argumentsUpdated id list)
  | none => d.reply (.error id invalidArguments)

/-- Strikes out the call that a reply refers to and hands the reply to its handler. -/
def onReply (r : HostReply) (d : Dispatcher σ) : Response σ :=
  let d := { d with calls := d.calls.settle r }
  match d.replyHandler? with
  | some h => d.notify h r
  | none => ⟨d, [], .proceed⟩

/-- The reason of a shutdown that gives none. -/
def defaultReason : String := "requested"

/-- The failure of a host that does not say what it was. -/
def defaultHostError : String := "unknown"

/-- Acknowledges a shutdown, with its reason, and ends. -/
def onShutdown (reason : Option Value) (d : Dispatcher σ) : Response σ :=
  let reason := Value.plainOr defaultReason reason
  ⟨{ d with phase := .shuttingDown reason }, [.shutdownAck reason], .stop⟩

/-- Takes one frame at the time `now`. A kind that only a session writes is named in the answer, like one that is
not known. -/
def dispatch (now : UInt64) (f : Frame) (d : Dispatcher σ) : Response σ :=
  match f with
  | .ping seq => d.onPing now seq
  | .message id payload => d.onMessage ⟨.host, id, payload⟩
  | .externalMessage id payload => d.onMessage ⟨.external, id, payload⟩
  | .load id specifier => d.onLoad id specifier
  | .factors id values value => d.onFactors id values value
  | .arguments id args => d.onArguments id args
  | .hostResult id result => d.onReply (.result id result)
  | .hostError id why => d.onReply (.error id (Value.plainOr defaultHostError why))
  | .shutdown reason => d.onShutdown reason
  | .unknown received => d.reply (.unknown received)
  | .text _ => d.reply (.unknown .null)
  | other => d.reply (.unknown (.str other.kind.name))

end Dispatcher

end ScriptLink
