import ScriptLink.Channel.Basic
import ScriptLink.Module.Fault

/-!
# ScriptLink.Session.Fault — how a session fails

A session fails before it begins, for its target or its modules, or later for its channel or a
handler; `SessionFault.early` tells the two apart.
-/

namespace ScriptLink

/-- Why a session ended without a shutdown. -/
inductive SessionFault where
  | missingTarget
  | targetImport (specifier : String) (cause : ImportFault)
  | load (cause : LoadFault)
  | channel (cause : ChannelError)
  | fatal (why : String)
  deriving DecidableEq, Repr, Inhabited

namespace SessionFault

def message : SessionFault → String
  | .missingTarget => "target specifier is not set"
  | .targetImport specifier cause =>
    s!"failed to import target module {specifier}: {cause.message}"
  | .load cause => cause.message
  | .channel cause => s!"channel failure: {cause.message}"
  | .fatal why => s!"session terminated by handler: {why}"

/-- The target or the modules failed, so nothing was read or written. -/
def early : SessionFault → Bool
  | .missingTarget => true
  | .targetImport .. => true
  | .load _ => true
  | .channel _ => false
  | .fatal _ => false

end SessionFault

end ScriptLink
