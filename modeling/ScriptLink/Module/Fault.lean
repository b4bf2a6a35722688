/-!
# ScriptLink.Module.Fault — what goes wrong in modules

* `ImportFault` is the failure of one import, `LoadFault` that of a loader beyond it.
* `HandlerFault` is the failure of a handler; only a fatal one ends the session.
-/

namespace ScriptLink

/-- Why a module was not imported. -/
inductive ImportFault where
  /-- There is no module of this name. -/
  | notFound (specifier : String)
  /-- The module is there but does not load. -/
  | failed (specifier : String) (why : String)
  deriving DecidableEq, Repr, Inhabited

namespace ImportFault

/-- The specifier that was not imported. -/
def specifier : ImportFault → String
  | .notFound specifier => specifier
  | .failed specifier _ => specifier

def message : ImportFault → String
  | .notFound specifier => s!"module not found: {specifier}"
  | .failed specifier why => s!"failed to load module {specifier}: {why}"

end ImportFault

/-- Why a list of modules was not loaded. -/
inductive LoadFault where
  | preload (specifier : String) (cause : ImportFault)
  | duplicate (specifier : String)
  deriving DecidableEq, Repr, Inhabited

def LoadFault.message : LoadFault → String
  | .preload specifier cause => s!"failed to preload module {specifier}: {cause.message}"
  | .duplicate specifier => s!"module '{specifier}' is already registered"

/-- Why a handler gave no result. -/
inductive HandlerFault where
  /-- The handler failed; the session goes on. -/
  | failed (why : String)
  /-- The handler ends the session. -/
  | fatal (why : String)
  deriving DecidableEq, Repr, Inhabited

namespace HandlerFault

def why : HandlerFault → String
  | .failed why => why
  | .fatal why => why

def message : HandlerFault → String
  | .failed why => why
  | .fatal why => s!"fatal handler error: {why}"

end HandlerFault

end ScriptLink
