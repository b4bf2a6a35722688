import ScriptLink.Channel.Pair
import ScriptLink.Channel.Stream

/-!
# ScriptLink.Channel.Transport — either kind of channel, from the script side

`Transport.pending` is how much a transport still has to give; a read that gives a line leaves less.
-/

namespace ScriptLink

/-- A channel within the process or over bytes. -/
inductive Transport where
  | memory (p : Pair)
  | stream (s : Stream)

namespace Transport

/-- A read on the script side. -/
def receive (limit : Option Nat) : Transport → Reading × Transport
  | .memory p => let (answer, p) := p.receive limit; (answer, .memory p)
  | .stream s => let (answer, s) := s.receive; (answer, .stream s)

/-- A line written on the script side. -/
def send (line : String) : Transport → Except ChannelError Nat × Transport
  | .memory p => let (answer, p) := p.send line; (answer, .memory p)
  | .stream s => let (answer, s) := s.send line; (answer, .stream s)

/-- How much there is to be read without waiting. -/
def pending : Transport → Nat
  | .memory p => p.toScript.items.length
  | .stream s => s.inbound.length

/-- A read that gives a line leaves less to be read. -/
theorem pending_receive {limit : Option Nat} {t t' : Transport} {line : String}
    (h : t.receive limit = (.line line, t')) : t'.pending < t.pending := by
  cases t with
  | memory p =>
    obtain ⟨⟨items, s, r⟩, q⟩ := p
    cases items with
    | nil => cases s <;> cases limit <;> simp [receive, Pair.receive, Queue.receive, Reading.ofLimit] at h
    | cons x rest =>
      simp only [receive, Pair.receive, Queue.receive, Queue.take?_cons, Prod.mk.injEq] at h
      obtain ⟨-, rfl⟩ := h
      simp [pending]
  | stream s =>
    obtain ⟨inbound, sink⟩ := s
    match inbound with
    | [] => simp [receive, Stream.receive] at h
    | .ok x :: rest =>
      simp only [receive, Stream.receive, Prod.mk.injEq] at h
      obtain ⟨-, rfl⟩ := h
      simp [pending]
    | .error e :: rest => simp [receive, Stream.receive] at h

theorem pending_send (line : String) (t : Transport) : (t.send line).2.pending = t.pending := by
  cases t <;> rfl

/-- The lines that the other side got, or can still get. -/
def written : Transport → List String
  | .memory p => if p.toHost.receiverOpen then p.toHost.items else []
  | .stream s => s.sink.written

end Transport

end ScriptLink
