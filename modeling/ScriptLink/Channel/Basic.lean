/-!
# ScriptLink.Channel.Basic — what a channel answers

A channel moves whole lines between the script side and the host side.

* `ChannelError` says why a line was not moved; `ChannelError.message` is its wording.
* `Reading` is the answer to a read: a line, an error, or nothing yet.
-/

namespace ScriptLink

/-- Why a channel did not do what it was asked. -/
inductive ChannelError where
  | unavailable (why : String)
  | alreadyOpened
  /-- A resource was named that the handle does not own. -/
  | badResource (named owned : UInt32)
  | closed
  /-- No line came within so many milliseconds. -/
  | timedOut (limit : Nat)
  | io (why : String)
  deriving DecidableEq, Repr, Inhabited

def ChannelError.message : ChannelError → String
  | .unavailable why => s!"duplex channel is not available: {why}"
  | .alreadyOpened => "duplex channel already opened"
  | .badResource named owned => s!"bad resource id {named}; handle owns {owned}"
  | .closed => "duplex channel reached EOF"
  | .timedOut limit => s!"no line received within {limit}ms"
  | .io why => s!"duplex channel I/O error: {why}"

/-- The answer to a read. -/
inductive Reading where
  | line (text : String)
  | failed (e : ChannelError)
  /-- There is no line yet, and the reader waits without limit. -/
  | waiting
  deriving DecidableEq, Repr, Inhabited

/-- The answer to a read of an empty channel whose writing side is still there. -/
def Reading.ofLimit : Option Nat → Reading
  | none => .waiting
  | some limit => .failed (.timedOut limit)

/-- How many bytes a line takes, with the line feed after it. -/
def lineBytes (line : String) : Nat := line.utf8ByteSize + 1

end ScriptLink
