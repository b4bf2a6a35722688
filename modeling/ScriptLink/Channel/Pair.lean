import ScriptLink.Channel.Queue

/-!
# ScriptLink.Channel.Pair — a channel within one process

Two queues of lines, one in each direction. Either side can hang up; its end of both queues is gone
then.
-/

namespace ScriptLink

/-- The two queues between the script side and the host side. -/
structure Pair where
  /-- What the host side sent. -/
  toScript : Queue String
  /-- What the script side sent. -/
  toHost : Queue String
  deriving DecidableEq, Repr, Inhabited

namespace Pair

def empty : Pair := ⟨.empty, .empty⟩

/-! ## The script side -/

/-- A read of what the host side sent. -/
def receive (limit : Option Nat) (p : Pair) : Reading × Pair :=
  let (answer, q) := p.toScript.receive limit
  (answer, { p with toScript := q })

/-- A line for the host side, and how many bytes it takes. -/
def send (line : String) (p : Pair) : Except ChannelError Nat × Pair :=
  let (answer, q) := p.toHost.write line
  (answer, { p with toHost := q })

/-- The script side hangs up. -/
def close (p : Pair) : Pair := ⟨p.toScript.closeReceiver, p.toHost.closeSender⟩

/-! ## The host side -/

/-- A read of what the script side sent. -/
def hostReceive (limit : Option Nat) (p : Pair) : Reading × Pair :=
  let (answer, q) := p.toHost.receive limit
  (answer, { p with toHost := q })

/-- A line for the script side, and how many bytes it takes. -/
def hostSend (line : String) (p : Pair) : Except ChannelError Nat × Pair :=
  let (answer, q) := p.toScript.write line
  (answer, { p with toScript := q })

/-- The host side hangs up. -/
def hostClose (p : Pair) : Pair := ⟨p.toScript.closeSender, p.toHost.closeReceiver⟩

/-- The host side stops sending but still receives. -/
def hostCloseSender (p : Pair) : Pair := { p with toScript := p.toScript.closeSender }

/-- The host side stops receiving but still sends. -/
def hostCloseReceiver (p : Pair) : Pair := { p with toHost := p.toHost.closeReceiver }

end Pair

end ScriptLink
