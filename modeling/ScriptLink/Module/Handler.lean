import ScriptLink.HostCall.Basic
import ScriptLink.Module.Fault
import ScriptLink.Session.State

/-!
# ScriptLink.Module.Handler — what script modules contribute

A module contributes handlers in two ways: it exports some, which count when the module is the target,
and it installs some in the global scope, where a later one takes the place of an earlier.

* A `Handler σ ρ α` is a function of the request, the state of the session and the memory `σ` that
  all modules share; it gives an `Outcome` and the memory after it. A handler that remembers nothing
  is one with `σ` the unit type.
* `Globals.above` puts the handlers that a module installs over those that are there.
* An `Importer σ` finds the module of a specifier, and uses the same memory: what it finds may depend on what
  was imported and done before. One that remembers nothing is `Importer.ofFind`.
-/

namespace ScriptLink

/-! ## Requests -/

/-- Whether a message comes from the host or from outside it. -/
inductive Origin where
  | host
  | external
  deriving DecidableEq, Repr, Inhabited

/-- A message for a handler. -/
structure Delivery where
  origin : Origin
  id : Option Value
  payload : Value
  deriving Inhabited

/-- What a handler learns when auxiliary factors were appended. -/
structure FactorUpdate where
  id : Option Value
  added : List String
  factors : List String
  deriving Inhabited

/-! ## Handlers -/

/-- What a handler did. -/
structure Outcome (α : Type) where
  calls : List HostCall
  result : Except HandlerFault α

namespace Outcome

def pure (x : α) : Outcome α := ⟨[], .ok x⟩

def fail (e : HandlerFault) : Outcome α := ⟨[], .error e⟩

end Outcome

/-- A handler of requests `ρ` with results `α` that may use the memory `σ`. -/
abbrev Handler (σ ρ α : Type) : Type := ρ → SessionState → σ → Outcome α × σ

/-- A handler that ignores state and memory. -/
def Handler.ofRequest (run : ρ → Outcome α) : Handler σ ρ α :=
  fun request _ memory => (run request, memory)

/-- The handlers that a module exports. -/
structure Exports (σ : Type) where
  message : Option (Handler σ Delivery Value) := none
  reply : Option (Handler σ HostReply Unit) := none
  factors : Option (Handler σ FactorUpdate Unit) := none

instance : Inhabited (Exports σ) := ⟨{}⟩

/-- The handlers of the global scope. -/
structure Globals (σ : Type) where
  message : Option (Handler σ Delivery Value) := none
  /-- The handler of requests that are texts. -/
  request : Option (Handler σ String Value) := none
  reply : Option (Handler σ HostReply Unit) := none
  factors : Option (Handler σ FactorUpdate Unit) := none

instance : Inhabited (Globals σ) := ⟨{}⟩

namespace Globals

def empty : Globals σ := {}

/-- Handlers put over others; where the upper have none, the lower show. -/
def above (upper lower : Globals σ) : Globals σ where
  message := upper.message.or lower.message
  request := upper.request.or lower.request
  reply := upper.reply.or lower.reply
  factors := upper.factors.or lower.factors

end Globals

/-! ## Modules -/

/-- A module: what it exports, what it installs, and what it does when it is installed. -/
structure ScriptModule (σ : Type) where
  exports : Exports σ := {}
  installs : Globals σ := {}
  /-- What the memory is after it was installed. -/
  onInstall : σ → σ := id

instance : Inhabited (ScriptModule σ) := ⟨{}⟩

/-- What imports the module of a specifier; it may use the memory `σ` that all modules share. -/
abbrev Importer (σ : Type) : Type := String → σ → Except ImportFault (ScriptModule σ) × σ

/-- An importer that ignores the memory. -/
def Importer.ofFind (find : String → Except ImportFault (ScriptModule σ)) : Importer σ :=
  fun specifier memory => (find specifier, memory)

end ScriptLink
