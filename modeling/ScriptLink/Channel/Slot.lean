import ScriptLink.Channel.Transport

/-!
# ScriptLink.Channel.Slot — a place for one channel, opened once

* A transport is put into a slot with `Slot.install`, and a later one takes its place; `Slot.take`
  takes it out, once and for all.
* Who takes it gets a `Handle`, which names the resource by a number that no other handle has.
* Every use of a handle names its resource; `Handle.own` refuses the number of another.
-/

namespace ScriptLink

/-- A place for one transport. -/
inductive Slot (τ : Type) where
  | empty
  /-- A transport waits to be taken. -/
  | installed (transport : τ)
  | opened
  deriving DecidableEq, Repr, Inhabited

/-- A transport that was taken out, and the number of its resource. -/
structure Handle (τ : Type) where
  rid : UInt32
  transport : τ
  deriving DecidableEq, Repr, Inhabited

namespace Slot

/-- Puts a transport in, in place of one that was not taken. -/
def install (t : τ) : Slot τ → Except ChannelError (Slot τ)
  | .opened => .error .alreadyOpened
  | _ => .ok (.installed t)

/-- Takes the transport out under the number `rid`. -/
def take (rid : UInt32) : Slot τ → Except ChannelError (Handle τ × Slot τ)
  | .installed t => .ok (⟨rid, t⟩, .opened)
  | .opened => .error .alreadyOpened
  | .empty => .error (.unavailable "no transport installed")

/-- The transport that waits to be taken. -/
def waiting? : Slot τ → Option τ
  | .installed t => some t
  | _ => none

end Slot

namespace Handle

/-- Whether the handle owns the resource that is named. -/
def own (rid : UInt32) (h : Handle τ) : Except ChannelError Unit :=
  if rid = h.rid then .ok () else .error (.badResource rid h.rid)

/-- A read through a handle of the resource `rid`. -/
def read (rid : UInt32) (limit : Option Nat) (h : Handle Transport) : Reading × Handle Transport :=
  match h.own rid with
  | .error e => (.failed e, h)
  | .ok () =>
    let (answer, t) := h.transport.receive limit
    (answer, { h with transport := t })

/-- A line written through a handle of the resource `rid`. -/
def write (rid : UInt32) (line : String) (h : Handle Transport) :
    Except ChannelError Nat × Handle Transport :=
  match h.own rid with
  | .error e => (.error e, h)
  | .ok () =>
    let (answer, t) := h.transport.send line
    (answer, { h with transport := t })

end Handle

end ScriptLink
