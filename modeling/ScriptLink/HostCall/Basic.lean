import ScriptLink.Frame.Basic

/-!
# ScriptLink.HostCall.Basic — calls of the script side and their replies
-/

namespace ScriptLink

/-- A call that the script side makes to the host. -/
structure HostCall where
  /-- The name by which the reply refers to the call. -/
  id : String
  payload : Value
  deriving Inhabited

/-- The frame that makes a call. -/
def HostCall.frame (c : HostCall) : Frame := .hostCall (.str c.id) c.payload

/-- What the host answered. -/
inductive HostReply where
  | result (id : Value) (result : Value)
  | error (id : Value) (why : String)
  deriving Inhabited

namespace HostReply

/-- The id by which a reply refers to its call. -/
def id : HostReply → Value
  | .result id _ => id
  | .error id _ => id

/-- The reply is a result and no failure. -/
def ok : HostReply → Bool
  | .result .. => true
  | .error .. => false

end HostReply

end ScriptLink
