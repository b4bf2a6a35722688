import ScriptLink.Module.Memory
import ScriptLink.Module.Registry
import ScriptLink.Text.UpperCase

/-!
# ScriptLink.Module.Builtin — the modules that every host has

* `builtin:echo` returns each message with its origin.
* `builtin:upper` installs a handler that returns text in upper case.
* `builtin:request-globals` installs a handler of text requests.
* `builtin:relay` makes a host call of each message, under a new name each time.
* `builtin:fatal` ends the session at the first message.
-/

namespace ScriptLink.Builtin

/-- The handler that does nothing. -/
def ignore : Handler σ ρ Unit := Handler.ofRequest fun _ => Outcome.pure ()

/-- How the origin of a message is named in an echo. -/
def originName : Origin → String
  | .host => "message"
  | .external => "external_message"

/-- Returns each message with its origin. -/
def echo : ScriptModule σ where
  exports :=
    { message := some (Handler.ofRequest fun d => Outcome.pure
        (Value.object [("echo", d.payload), ("source", .str (originName d.origin))]))
      reply := some ignore
      factors := some ignore }

/-- Returns text in upper case. -/
def upper : ScriptModule σ where
  installs :=
    { message := some (Handler.ofRequest fun d => match d.payload with
        | .str text => Outcome.pure (.str (Text.upperCase text))
        | _ => Outcome.fail (.failed "builtin:upper expects a string payload")) }

/-- Returns each text request with the target of the session. -/
def describe : Handler σ String Value := fun request state memory =>
  (Outcome.pure (Value.object [("request", .str request), ("target", .str state.target)]), memory)

/-- Installs a handler of text requests. -/
def requestGlobals : ScriptModule σ where
  installs := { request := some describe }

/-- The name of the call of a message, by the number of those before it. -/
def relayName (n : Nat) : String := s!"relay-{n}"

/-- Makes a host call of a message and returns its name. -/
def relayMessage : Handler Memory Delivery Value := fun d _ memory =>
  let name := relayName memory.relayed
  (⟨[⟨name, d.payload⟩], .ok (Value.object [("relayed", .str name)])⟩,
    { memory with relayed := memory.relayed + 1 })

/-- Makes a host call of each message. -/
def relay : ScriptModule Memory where
  exports := { message := some relayMessage, reply := some ignore }

/-- Ends the session at the first message. -/
def fatal : ScriptModule σ where
  exports :=
    { message := some (Handler.ofRequest fun _ =>
        Outcome.fail (.fatal "builtin:fatal refuses every request")) }

/-- The modules with their specifiers. -/
def modules : List (String × ScriptModule Memory) :=
  [("builtin:echo", echo), ("builtin:upper", upper), ("builtin:request-globals", requestGlobals),
    ("builtin:relay", relay), ("builtin:fatal", fatal)]

/-- The modules as a registry. -/
def registry : Registry (ScriptModule Memory) where
  entries := modules
  nodup := by decide

/-- None of these modules is refused when they are registered in turn. -/
theorem registerAll_modules : Registry.empty.registerAll modules = .ok registry :=
  Registry.registerAll_of_nodup registry.nodup

end ScriptLink.Builtin
