/-!
# ScriptLink.Host.Milestone — what a host reports about its life

A host that begins reports that it does and then whether it could; a session that was launched is
reported when it starts, and both of its sides when they end.
-/

namespace ScriptLink

/-- Something that a host reports. -/
inductive Milestone where
  | bootstrapStarting
  | bootstrapSucceeded
  | bootstrapFailed
  | sessionStarted (target : String)
  | sessionFinished (reason : String)
  /-- The session did not begin, or it ended with a failure of this wording. -/
  | sessionFailed (why : String)
  | driveFinished
  | driveFailed
  deriving DecidableEq, Repr, Inhabited

/-- How a milestone is written. -/
def Milestone.line : Milestone → String
  | bootstrapStarting => "bootstrap_starting"
  | bootstrapSucceeded => "bootstrap_succeeded"
  | bootstrapFailed => "bootstrap_failed"
  | sessionStarted target => "session_started " ++ target
  | sessionFinished reason => "session_finished " ++ reason
  | sessionFailed why => "session_failed " ++ why
  | driveFinished => "drive_finished"
  | driveFailed => "drive_failed"

end ScriptLink
