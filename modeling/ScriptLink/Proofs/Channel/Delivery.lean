import ScriptLink.Channel.Slot
import ScriptLink.Proofs.Record

/-!
# ScriptLink.Proofs.Channel.Delivery — a channel within one process delivers

* A `Wire` is such a channel with its script end behind a handle. `Wire.step` uses one of its ends, drops it, or
  drops one half of the host end, which can be split in two.
* From the records of a history: `said` is what was sent at a side, `heard` what was received there, and `sends`
  and `receives` tell whether the side can still do either.
* `Queue.Delivers` is what a queue keeps: what was heard and what it holds is what was said. `Carried.step` has
  it of both queues for one step, `carried_after` for a history, and `wire_delivers` is what follows from it.
-/

namespace ScriptLink

/-! ## One queue -/

/-- Every item that was said was heard or is still held, in order, and the ends are there or not. -/
structure Queue.Delivers (q : Queue String) (said heard : List String) (sends receives : Bool) : Prop where
  items : heard ++ q.items = said
  sender : q.senderOpen = sends
  receiver : q.receiverOpen = receives

/-- The answer to a read of an empty queue, whose sending end is there or not. -/
def Queue.absence (sends : Bool) (limit : Option Nat) : Reading :=
  if sends then Reading.ofLimit limit else .failed .closed

/-- The line that a read gave. -/
def Reading.line? : Reading → Option String
  | .line x => some x
  | _ => none

namespace Queue

variable {q : Queue String} {said heard : List String} {sends receives : Bool}

theorem delivers_empty : (empty : Queue String).Delivers [] [] true true := ⟨rfl, rfl, rfl⟩

theorem line?_absence (sends : Bool) (limit : Option Nat) : (absence sends limit).line? = none := by
  cases sends <;> cases limit <;> rfl

theorem write_of_open (h : q.receiverOpen = true) (line : String) :
    q.write line = (.ok (lineBytes line), { q with items := q.items ++ [line] }) := by
  rw [write, send?, if_pos h]

theorem write_of_closed (h : q.receiverOpen = false) (line : String) : q.write line = (.error .closed, q) := by
  rw [write, send?, if_neg (by simp [h])]

namespace Delivers

variable (h : q.Delivers said heard sends receives)
include h

/-- Ends of the queue hang up. -/
theorem close (c d : Bool) : Delivers { q with senderOpen := q.senderOpen && !c, receiverOpen := q.receiverOpen && !d }
    said heard (sends && !c) (receives && !d) :=
  ⟨h.items, by rw [h.sender], by rw [h.receiver]⟩

/-- A line is said if the write succeeds. -/
theorem write (line : String) :
    (q.write line).2.Delivers (said ++ ((q.write line).1.toOption.map fun _ => line).toList) heard sends receives := by
  cases hr : q.receiverOpen with
  | true =>
    rw [write_of_open hr]
    exact ⟨by rw [← h.items]; exact (List.append_assoc ..).symm, h.sender, h.receiver⟩
  | false =>
    rw [write_of_closed hr]
    exact ⟨by rw [h.items]; exact (List.append_nil _).symm, h.sender, h.receiver⟩

/-- What a read gives is the next line that was said, and without one it tells whether there can be another. -/
theorem receive_eq (limit : Option Nat) :
    (∃ x later, said = heard ++ x :: later ∧ (q.receive limit).1 = .line x ∧
      (q.receive limit).2 = { q with items := later }) ∨
    (said = heard ∧ (q.receive limit).1 = absence sends limit ∧ (q.receive limit).2 = q) := by
  have hitems := h.items
  have hsender := h.sender
  obtain ⟨items, s, r⟩ := q
  cases items with
  | nil => exact .inr ⟨by rw [← hitems, List.append_nil], by rw [← hsender]; rfl, rfl⟩
  | cons x later => exact .inl ⟨x, later, hitems.symm, rfl, rfl⟩

theorem receive (limit : Option Nat) :
    (q.receive limit).2.Delivers said (heard ++ (q.receive limit).1.line?.toList) sends receives := by
  rcases h.receive_eq limit with ⟨x, later, hsaid, hline, hnext⟩ | ⟨-, hnone, hnext⟩
  · rw [hline, hnext]
    exact ⟨by rw [hsaid]; exact List.append_assoc .., h.sender, h.receiver⟩
  · rw [hnone, line?_absence, hnext]
    exact ⟨by rw [Option.toList_none, List.append_nil, h.items], h.sender, h.receiver⟩

theorem answer_write (line : String) :
    (q.write line).1 = if receives then .ok (lineBytes line) else .error .closed := by
  cases hr : receives with
  | true => rw [write_of_open (h.receiver.trans hr), if_pos rfl]
  | false => rw [write_of_closed (h.receiver.trans hr), if_neg (by simp)]

/-- A read gives a line exactly if one was said that was not heard, the next of them; otherwise the answer tells
whether one can still be said and how long the reader waits. -/
theorem answer_receive (limit : Option Nat) :
    (∀ x, (q.receive limit).1 = .line x ↔ ∃ later, said = heard ++ x :: later) ∧
    ((q.receive limit).1 = .failed .closed ↔ said = heard ∧ sends = false) ∧
    (∀ n, (q.receive limit).1 = .failed (.timedOut n) ↔ said = heard ∧ sends = true ∧ limit = some n) ∧
    ((q.receive limit).1 = .waiting ↔ said = heard ∧ sends = true ∧ limit = none) := by
  rcases h.receive_eq limit with ⟨x, later, hsaid, hline, -⟩ | ⟨hsaid, hnone, -⟩
  · rw [hline, hsaid]
    simp
  · rw [hnone, hsaid]
    cases sends <;> cases limit <;> simp [absence, Reading.ofLimit, eq_comm]

end Delivers

end Queue

/-! ## Both ends and what is done with them -/

/-- The two ends of a channel. -/
inductive Side where
  | script
  | host
  deriving DecidableEq, Repr

/-- A channel within the process, and the number of the handle that has its script end. -/
structure Wire where
  rid : UInt32
  pair : Pair

namespace Wire

inductive Use where
  | read (limit : Option Nat)
  | send (line : String)

inductive Act where
  /-- Use the handle, naming a resource. -/
  | script (named : UInt32) (u : Use)
  | host (u : Use)
  | drop (i : Side)
  /-- Drop the half of the host end that sends. -/
  | dropHostSender
  /-- Drop the half of the host end that receives. -/
  | dropHostReceiver

inductive Answer where
  | done
  | reading (r : Reading)
  | sent (r : Except ChannelError Nat)
  /-- What was to be used was dropped before. -/
  | gone

/-- What was done with one of the ends, and what came of it. -/
abbrev Entry := Record Act Answer

def start (rid : UInt32) : Wire := ⟨rid, .empty⟩

/-- The handle at the script end of a wire. -/
def handle (w : Wire) : Handle Transport := ⟨w.rid, .memory w.pair⟩

/-- The queue that a side receives from; the other side sends to it. -/
def inbound (w : Wire) : Side → Queue String
  | .script => w.pair.toScript
  | .host => w.pair.toHost

def setInbound (w : Wire) (q : Queue String) : Side → Wire
  | .script => { w with pair := { w.pair with toScript := q } }
  | .host => { w with pair := { w.pair with toHost := q } }

/-- The wire after a use of its handle. -/
def put (w : Wire) (h : Handle Transport) : Wire :=
  match h.transport with
  | .memory p => { w with pair := p }
  | .stream _ => w

/-- What a handle answers when it is used as the resource `named`. -/
def useHandle (w : Wire) (named : UInt32) : Use → Answer × Wire
  | .read limit => let (r, h) := w.handle.read named limit; (.reading r, w.put h)
  | .send line => let (r, h) := w.handle.write named line; (.sent r, w.put h)

/-- What the host end answers. -/
def useHost (w : Wire) : Use → Answer × Wire
  | .read limit => let (r, p) := w.pair.hostReceive limit; (.reading r, { w with pair := p })
  | .send line => let (r, p) := w.pair.hostSend line; (.sent r, { w with pair := p })

/-- Whether what is to be used is still held. -/
def holds (w : Wire) : Act → Bool
  | .script _ (.read _) => (w.inbound .script).receiverOpen
  | .script _ (.send _) => (w.inbound .host).senderOpen
  | .host (.read _) => (w.inbound .host).receiverOpen
  | .host (.send _) => (w.inbound .script).senderOpen
  | _ => true

/-- What an act does, if what it uses is held. -/
def perform (w : Wire) : Act → Answer × Wire
  | .script named u => w.useHandle named u
  | .host u => w.useHost u
  | .drop .script => (.done, { w with pair := w.pair.close })
  | .drop .host => (.done, { w with pair := w.pair.hostClose })
  | .dropHostSender => (.done, { w with pair := w.pair.hostCloseSender })
  | .dropHostReceiver => (.done, { w with pair := w.pair.hostCloseReceiver })

/-- An act; what was dropped is gone. -/
def step (w : Wire) (a : Act) : Answer × Wire := if w.holds a then w.perform a else (.gone, w)

theorem inbound_setInbound_self (w : Wire) (q : Queue String) (i : Side) : (w.setInbound q i).inbound i = q := by
  cases i <;> rfl

theorem inbound_setInbound_of_ne (w : Wire) (q : Queue String) {i j : Side} (h : j ≠ i) :
    (w.setInbound q i).inbound j = w.inbound j := by
  cases i with
  | script =>
    cases j with
    | script => exact absurd rfl h
    | host => rfl
  | host =>
    cases j with
    | script => rfl
    | host => exact absurd rfl h

/-! ## What the records tell -/

/-- The side that receives what moves. -/
def Act.toward? : Act → Option Side
  | .script _ (.read _) | .host (.send _) => some .script
  | .script _ (.send _) | .host (.read _) => some .host
  | _ => none

/-- The line that is to be sent. -/
def Act.line? : Act → Option String
  | .script _ (.send line) | .host (.send line) => some line
  | _ => none

/-- Whether nobody sends to a side any more. -/
def Act.endsSending : Side → Act → Bool
  | .script, .drop .host | .host, .drop .script | .script, .dropHostSender => true
  | _, _ => false

/-- Whether a side stops receiving. -/
def Act.endsReceiving : Side → Act → Bool
  | .script, .drop .script | .host, .drop .host | .host, .dropHostReceiver => true
  | _, _ => false

/-- The line that was sent. -/
def Entry.sent? (r : Entry) : Option String :=
  match r.answer with
  | .sent (.ok _) => r.act.line?
  | _ => none

/-- The line that was received. -/
def Entry.received? (r : Entry) : Option String :=
  match r.answer with
  | .reading answer => answer.line?
  | _ => none

/-- The records of what moves, or would, toward one side. -/
def toward (i : Side) (t : List Entry) : List Entry := t.filter fun r => r.act.toward? == some i

/-- The lines that were sent to a side, oldest first. -/
def sentTo (i : Side) (t : List Entry) : List String := (toward i t).filterMap Entry.sent?

/-- The lines that a side received, oldest first. -/
def receivedBy (i : Side) (t : List Entry) : List String := (toward i t).filterMap Entry.received?

/-- Whether the other side still has what it sends to this one with. -/
def senderHeld (i : Side) (t : List Entry) : Bool := t.all fun r => !r.act.endsSending i

/-- Whether a side still has what it receives with. -/
def receiverHeld (i : Side) (t : List Entry) : Bool := t.all fun r => !r.act.endsReceiving i

section

variable (t : List Entry) (r : Entry) (i : Side)

theorem toward_concat_self (h : r.act.toward? = some i) : toward i (t ++ [r]) = toward i t ++ [r] := by
  simp [toward, h]

theorem toward_concat_of_ne (h : r.act.toward? ≠ some i) : toward i (t ++ [r]) = toward i t := by
  simp [toward, h]

theorem sentTo_concat (h : r.act.toward? = some i) : sentTo i (t ++ [r]) = sentTo i t ++ r.sent?.toList := by
  rw [sentTo, toward_concat_self t r i h, List.filterMap_append]
  cases hs : r.sent? <;> simp [sentTo, hs]

theorem receivedBy_concat (h : r.act.toward? = some i) :
    receivedBy i (t ++ [r]) = receivedBy i t ++ r.received?.toList := by
  rw [receivedBy, toward_concat_self t r i h, List.filterMap_append]
  cases hs : r.received? <;> simp [receivedBy, hs]

theorem senderHeld_concat : senderHeld i (t ++ [r]) = (senderHeld i t && !r.act.endsSending i) := by
  simp [senderHeld]

theorem receiverHeld_concat : receiverHeld i (t ++ [r]) = (receiverHeld i t && !r.act.endsReceiving i) := by
  simp [receiverHeld]

end

theorem endsSending_of_toward? {a : Act} {j : Side} (h : a.toward? = some j) (i : Side) :
    a.endsSending i = false := by
  cases a with
  | script | host => cases i <;> rfl
  | _ => cases h

theorem endsReceiving_of_toward? {a : Act} {j : Side} (h : a.toward? = some j) (i : Side) :
    a.endsReceiving i = false := by
  cases a with
  | script | host => cases i <;> rfl
  | _ => cases h

/-! ## What a step does -/

/-- A side reads, the script side with the handle that has the number `rid`. -/
def Act.reads (rid : UInt32) (limit : Option Nat) : Side → Act
  | .script => .script rid (.read limit)
  | .host => .host (.read limit)

/-- A line is sent to a side, to the host side with the handle that has the number `rid`. -/
def Act.sends (rid : UInt32) (line : String) : Side → Act
  | .script => .host (.send line)
  | .host => .script rid (.send line)

/-- The answer of a use that failed. -/
def Use.refused (e : ChannelError) : Use → Answer
  | .read _ => .reading (.failed e)
  | .send _ => .sent (.error e)

variable {w : Wire} {i : Side}

theorem sent?_sends (rid : UInt32) (line : String) (i : Side) (x : Except ChannelError Nat) :
    Entry.sent? ⟨Act.sends rid line i, .sent x⟩ = x.toOption.map fun _ => line := by
  cases i <;> cases x <;> rfl

theorem step_reads (limit : Option Nat) (h : (w.inbound i).receiverOpen = true) :
    w.step (Act.reads w.rid limit i) =
      (.reading ((w.inbound i).receive limit).1, w.setInbound ((w.inbound i).receive limit).2 i) := by
  have hw : w.holds (Act.reads w.rid limit i) = true := by cases i <;> exact h
  rw [step, if_pos hw]
  cases i with
  | script => simp [Act.reads, perform, useHandle, Handle.read, Handle.own, handle, put, Transport.receive,
      Pair.receive, inbound, setInbound]
  | host => rfl

theorem step_sends (line : String) (h : (w.inbound i).senderOpen = true) :
    w.step (Act.sends w.rid line i) =
      (.sent ((w.inbound i).write line).1, w.setInbound ((w.inbound i).write line).2 i) := by
  have hw : w.holds (Act.sends w.rid line i) = true := by cases i <;> exact h
  rw [step, if_pos hw]
  cases i with
  | script => rfl
  | host => simp [Act.sends, perform, useHandle, Handle.write, Handle.own, handle, put, Transport.send, Pair.send,
      inbound, setInbound]

/-- A use that names the resource of another handle does nothing. -/
theorem step_foreign {named : UInt32} {u : Use} (hn : named ≠ w.rid) (h : w.holds (.script named u) = true) :
    w.step (.script named u) = (u.refused (.badResource named w.rid), w) := by
  rw [step, if_pos h]
  cases u <;> simp [perform, useHandle, Handle.read, Handle.write, Handle.own, handle, put, hn, Use.refused]

/-- A use of what was dropped does nothing. -/
theorem step_gone {a : Act} (h : w.holds a = false) : w.step a = (.gone, w) := by
  rw [step, if_neg (by simp [h])]

/-- Dropping an end hangs up both its queues, dropping a half of it the queue of that half. -/
theorem inbound_step_drop {a : Act} (h : a.toward? = none) (i : Side) :
    (w.step a).2.inbound i = { w.inbound i with
      senderOpen := (w.inbound i).senderOpen && !a.endsSending i
      receiverOpen := (w.inbound i).receiverOpen && !a.endsReceiving i } := by
  cases a with
  | script _ u | host u => cases u <;> cases h
  | drop j => cases i <;> cases j <;> simp [step, holds, perform, inbound, Pair.close, Pair.hostClose,
      Act.endsSending, Act.endsReceiving, Queue.closeSender, Queue.closeReceiver]
  | dropHostSender => cases i <;> simp [step, holds, perform, inbound, Pair.hostCloseSender, Act.endsSending,
      Act.endsReceiving, Queue.closeSender]
  | dropHostReceiver => cases i <;> simp [step, holds, perform, inbound, Pair.hostCloseReceiver, Act.endsSending,
      Act.endsReceiving, Queue.closeReceiver]

theorem rid_step_drop {a : Act} (h : a.toward? = none) : (w.step a).2.rid = w.rid := by
  cases a with
  | script _ u | host u => cases u <;> cases h
  | drop j => cases j <;> rfl
  | dropHostSender | dropHostReceiver => rfl

/-! ## Histories -/

/-- Both queues have delivered what the records say, and the handle has kept its number. -/
structure Carried (rid : UInt32) (w : Wire) (t : List Entry) : Prop where
  rid : w.rid = rid
  queue : ∀ i, (w.inbound i).Delivers (sentTo i t) (receivedBy i t) (senderHeld i t) (receiverHeld i t)

theorem carried_start (rid : UInt32) : Carried rid (start rid) [] where
  rid := rfl
  queue i := by cases i <;> exact Queue.delivers_empty

section

variable {rid : UInt32} {t : List Entry} (h : Carried rid w t)
include h

/-- Something moves toward one side; the other queue is left alone. -/
theorem Carried.move {a : Act} {x : Answer} {q : Queue String} (ha : a.toward? = some i)
    (hq : q.Delivers (sentTo i t ++ (Entry.sent? ⟨a, x⟩).toList)
      (receivedBy i t ++ (Entry.received? ⟨a, x⟩).toList) (senderHeld i t) (receiverHeld i t)) :
    Carried rid (w.setInbound q i) (t ++ [⟨a, x⟩]) := by
  refine ⟨by cases i <;> exact h.rid, fun j => ?_⟩
  rw [senderHeld_concat, receiverHeld_concat, endsSending_of_toward? ha, endsReceiving_of_toward? ha,
    Bool.not_false, Bool.and_true, Bool.and_true]
  by_cases hj : j = i
  · rw [hj, inbound_setInbound_self, sentTo_concat t ⟨a, x⟩ i ha, receivedBy_concat t ⟨a, x⟩ i ha]
    exact hq
  · -- nothing moves toward the other side, and its queue is the same
    have hne : a.toward? ≠ some j := by
      rw [ha]
      exact fun he => hj (Option.some.inj he).symm
    rw [inbound_setInbound_of_ne w q hj, sentTo, receivedBy, toward_concat_of_ne t ⟨a, x⟩ j hne]
    exact h.queue j

theorem Carried.reads (limit : Option Nat) (hu : (w.inbound i).receiverOpen = true) :
    Carried rid (w.step (.reads w.rid limit i)).2
      (t ++ [⟨.reads w.rid limit i, (w.step (.reads w.rid limit i)).1⟩]) := by
  rw [step_reads limit hu]
  refine h.move (by cases i <;> rfl) ?_
  rw [show Entry.sent? _ = none from rfl, Option.toList_none, List.append_nil]
  exact (h.queue i).receive limit

theorem Carried.sends (line : String) (hu : (w.inbound i).senderOpen = true) :
    Carried rid (w.step (.sends w.rid line i)).2
      (t ++ [⟨.sends w.rid line i, (w.step (.sends w.rid line i)).1⟩]) := by
  rw [step_sends line hu]
  refine h.move (by cases i <;> rfl) ?_
  rw [sent?_sends, show Entry.received? _ = none from rfl, Option.toList_none, List.append_nil]
  exact (h.queue i).write line

/-- Nothing is sent or received. -/
theorem Carried.idle {a : Act} {x : Answer} (ha : a.toward? = some i) (hsent : Entry.sent? ⟨a, x⟩ = none)
    (hreceived : Entry.received? ⟨a, x⟩ = none) : Carried rid w (t ++ [⟨a, x⟩]) := by
  have hq := h.queue i
  rw [← List.append_nil (sentTo i t), ← List.append_nil (receivedBy i t)] at hq
  have hw := h.move (x := x) ha (by rw [hsent, hreceived]; exact hq)
  cases i <;> exact hw

/-- A side, or a half of it, is dropped. -/
theorem Carried.drop {a : Act} (ha : a.toward? = none) : Carried rid (w.step a).2 (t ++ [⟨a, (w.step a).1⟩]) := by
  refine ⟨(rid_step_drop ha).trans h.rid, fun j => ?_⟩
  have hne : a.toward? ≠ some j := by
    rw [ha]
    exact fun he => nomatch he
  rw [sentTo, receivedBy, toward_concat_of_ne t ⟨a, _⟩ j hne, senderHeld_concat, receiverHeld_concat,
    inbound_step_drop ha]
  exact (h.queue j).close (a.endsSending j) (a.endsReceiving j)

theorem Carried.step (a : Act) : Carried rid (w.step a).2 (t ++ [⟨a, (w.step a).1⟩]) := by
  cases hw : w.holds a with
  | false =>
    obtain ⟨i, hi⟩ : ∃ i, a.toward? = some i := by
      cases a with
      | script _ u | host u => cases u <;> exact ⟨_, rfl⟩
      | _ => cases hw
    rw [step_gone hw]
    exact h.idle hi rfl rfl
  | true =>
    cases a with
    | script named u =>
      by_cases hn : named = w.rid
      · subst hn
        cases u with
        | read limit => exact h.reads (i := .script) limit hw
        | send line => exact h.sends (i := .host) line hw
      · rw [step_foreign hn hw]
        cases u with
        | read limit => exact h.idle (i := .script) rfl rfl rfl
        | send line => exact h.idle (i := .host) rfl rfl rfl
    | host u =>
      cases u with
      | read limit => exact h.reads (i := .host) limit hw
      | send line => exact h.sends (i := .script) line hw
    | drop | dropHostSender | dropHostReceiver => exact h.drop rfl

end

theorem carried_after (rid : UInt32) (acts : List Act) :
    Carried rid (Record.after step (start rid) acts) (Record.records step (start rid) acts) :=
  Record.invariant step (carried_start rid) (fun _ _ a h => h.step a) acts

/-- **Delivery**: whatever was done with both ends of a channel within the process, the lines that a side received
are the first of those that were sent to it, in order. While it is still there to receive, another line can be sent
to it and takes its bytes and one more, after that it is closed. A read gives the next line that was sent. When
there is none, it is closed if nobody can send one any more, and otherwise it waits or its time runs out. And a use
of the handle that names another resource fails and changes nothing. -/
theorem wire_delivers (rid : UInt32) (acts : List Act) (i : Side) :
    let w := Record.after step (start rid) acts
    let t := Record.records step (start rid) acts
    let answer (a : Act) := (w.step a).1
    receivedBy i t <+: sentTo i t ∧
    (senderHeld i t = true → ∀ line, answer (.sends rid line i) =
      .sent (if receiverHeld i t then .ok (line.utf8ByteSize + 1) else .error .closed)) ∧
    (receiverHeld i t = true → ∀ limit,
      (∀ x, answer (.reads rid limit i) = .reading (.line x) ↔
        ∃ later, sentTo i t = receivedBy i t ++ x :: later) ∧
      (answer (.reads rid limit i) = .reading (.failed .closed) ↔
        sentTo i t = receivedBy i t ∧ senderHeld i t = false) ∧
      (∀ n, answer (.reads rid limit i) = .reading (.failed (.timedOut n)) ↔
        sentTo i t = receivedBy i t ∧ senderHeld i t = true ∧ limit = some n) ∧
      (answer (.reads rid limit i) = .reading .waiting ↔
        sentTo i t = receivedBy i t ∧ senderHeld i t = true ∧ limit = none)) ∧
    ∀ named, named ≠ rid →
      (receiverHeld .script t = true → ∀ limit,
        w.step (.script named (.read limit)) = (.reading (.failed (.badResource named rid)), w)) ∧
      (senderHeld .host t = true → ∀ line,
        w.step (.script named (.send line)) = (.sent (.error (.badResource named rid)), w)) := by
  intro w t answer
  have h : Carried rid w t := carried_after rid acts
  have hrid := h.rid
  have hq := h.queue i
  refine ⟨⟨_, hq.items⟩, fun hs line => ?_, fun hr limit => ?_,
    fun named hn => ⟨fun hr limit => ?_, fun hs line => ?_⟩⟩
  · have hstep := step_sends line (hq.sender.trans hs)
    rw [hrid] at hstep
    rw [show answer (.sends rid line i) = _ from congrArg Prod.fst hstep, hq.answer_write]
    rfl
  · have hstep := step_reads limit (hq.receiver.trans hr)
    rw [hrid] at hstep
    rw [show answer (.reads rid limit i) = _ from congrArg Prod.fst hstep]
    simp only [Answer.reading.injEq]
    exact hq.answer_receive limit
  · have hstep := step_foreign (u := .read limit) (hrid ▸ hn) ((h.queue .script).receiver.trans hr)
    rw [hrid] at hstep
    exact hstep
  · have hstep := step_foreign (u := .send line) (hrid ▸ hn) ((h.queue .host).sender.trans hs)
    rw [hrid] at hstep
    exact hstep

end Wire

end ScriptLink
