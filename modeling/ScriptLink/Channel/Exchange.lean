import ScriptLink.Channel.Slot

/-!
# ScriptLink.Channel.Exchange — many channels, one slot at a time

An exchange keeps every channel that was made and hands its ends out: the script end goes through the
current slot to a handle, the host end of a channel within the process stays with the exchange.
Channels, handles, host ends and sinks are numbered in the order in which they were made.

Neither a session nor a host uses exchanges. They are for whoever drives channels from outside, one written request
after the other, and so must name ends that it cannot hold. All that happens to a channel is done by its `Slot`,
`Handle`, `Pair` or `Stream`; an exchange adds the numbers, and that an end hangs up when nobody holds it any more.

* `Exchange.apply` does one `Action` and gives its `Answer`.
* A script end that nobody holds any more has hung up: one that was replaced in a slot, one whose
  slot was replaced, one that a slot refused, and one whose handle was dropped.
-/

namespace ScriptLink

namespace Exchange

/-- A script end, by the number of its channel. -/
inductive Endpoint where
  | pair (index : Nat)
  | stream (index : Nat)
  deriving DecidableEq, Repr, Inhabited

/-- What may be asked of an exchange; channels, handles, hosts and sinks go by their numbers. -/
inductive Action where
  | newSlot
  | newSlotWithPair
  | installPair
  | installStream (input : List UInt8) (limit : Option Nat)
  | take
  /-- Read with a handle, naming the resource so much beyond its own. -/
  | read (handle : Nat) (offset : UInt32) (limit : Option Nat)
  | write (handle : Nat) (offset : UInt32) (line : String)
  | dropHandle (handle : Nat)
  | hostSend (host : Nat) (line : String)
  | hostReceive (host : Nat) (limit : Option Nat)
  | dropHost (host : Nat)
  | look (sink : Nat)

/-- What comes of an action. -/
inductive Answer where
  | done
  | failed (e : ChannelError)
  /-- A handle, by its number, and how far its resource is beyond that of the first handle. -/
  | taken (handle : Nat) (delta : UInt32)
  | reading (r : Reading)
  | bytes (n : Nat)
  | written (text : String)
  | noHandle
  | noHost

end Exchange

/-- Every channel, and who holds its ends. -/
structure Exchange where
  pairs : List Pair
  /-- Whether the host end of each of them is held. -/
  hosts : List Bool
  streams : List Stream
  slot : Slot Exchange.Endpoint
  /-- The handles that were made; nothing in place of one that was dropped. -/
  handles : List (Option (Handle Exchange.Endpoint))
  next : UInt32

namespace Exchange

def firstResource : UInt32 := 1

def empty : Exchange := ⟨[], [], [], .empty, [], firstResource⟩

/-- A script end hangs up. A stream has no other end that would hear of it. -/
def close (e : Exchange) : Endpoint → Exchange
  | .pair i => { e with pairs := e.pairs.modify i Pair.close }
  | .stream _ => e

/-- What the current slot holds hangs up. -/
def closeWaiting (e : Exchange) : Exchange :=
  match e.slot.waiting? with
  | some script => e.close script
  | none => e

/-- Puts a script end into the slot; where the slot refuses it, it hangs up. -/
def install (e : Exchange) (script : Endpoint) : Answer × Exchange :=
  match e.slot.install script with
  | .ok slot => (.done, { e.closeWaiting with slot })
  | .error why => (.failed why, e.close script)

/-- Makes a channel within the process, whose host end is held. -/
def newPair (e : Exchange) : Endpoint × Exchange :=
  (.pair e.pairs.length, { e with pairs := e.pairs ++ [.empty], hosts := e.hosts ++ [true] })

/-- The channel of a script end. -/
def transport? (e : Exchange) : Endpoint → Option Transport
  | .pair i => e.pairs[i]?.map .memory
  | .stream i => e.streams[i]?.map .stream

/-- The channel of a script end as a use of the end left it. -/
def put (e : Exchange) : Endpoint → Transport → Exchange
  | .pair i, .memory p => { e with pairs := e.pairs.set i p }
  | .stream i, .stream s => { e with streams := e.streams.set i s }
  | _, _ => e

def Answer.ofWrite : Except ChannelError Nat → Answer
  | .ok n => .bytes n
  | .error e => .failed e

/-- The handle with the given number, unless it was dropped. -/
def handle? (e : Exchange) (i : Nat) : Option (Handle Endpoint) := e.handles[i]?.join

/-- A handle with the channel itself in place of its script end. -/
def held? (e : Exchange) (h : Handle Endpoint) : Option (Handle Transport) :=
  (e.transport? h.transport).map (⟨h.rid, ·⟩)

/-- Uses a handle with `use`, which gives what came of it and the handle after that. -/
def useHandle (e : Exchange) (i : Nat) (use : Handle Transport → Answer × Handle Transport) : Answer × Exchange :=
  match e.handle? i with
  | none => (.noHandle, e)
  | some h =>
    match e.held? h with
    | none => (.failed .closed, e)
    | some held => let (answer, held) := use held; (answer, e.put h.transport held.transport)

/-- The channel of a host end that is held. -/
def host? (e : Exchange) (i : Nat) : Option Pair :=
  if e.hosts[i]? = some true then e.pairs[i]? else none

/-- Does one action. -/
def apply (e : Exchange) : Action → Answer × Exchange
  | .newSlot => (.done, { e.closeWaiting with slot := .empty })
  | .newSlotWithPair =>
    let (script, e) := e.closeWaiting.newPair
    (.done, { e with slot := .installed script })
  | .installPair =>
    let (script, e) := e.newPair
    e.install script
  | .installStream input limit =>
    let script := Endpoint.stream e.streams.length
    let e := { e with streams := e.streams ++ [Stream.ofBytes input limit] }
    e.install script
  | .take =>
    match e.slot.take e.next with
    | .error why => (.failed why, e)
    | .ok (h, slot) =>
      (.taken e.handles.length (h.rid - firstResource),
        { e with slot, handles := e.handles ++ [some h], next := e.next + 1 })
  | .read i offset limit =>
    e.useHandle i fun h => let (r, h) := h.read (h.rid + offset) limit; (.reading r, h)
  | .write i offset line =>
    e.useHandle i fun h => let (r, h) := h.write (h.rid + offset) line; (.ofWrite r, h)
  | .dropHandle i =>
    match e.handle? i with
    | none => (.done, e)
    | some h => (.done, { e.close h.transport with handles := e.handles.set i none })
  | .hostSend i line =>
    match e.host? i with
    | none => (.noHost, e)
    | some p => let (r, p) := p.hostSend line; (.ofWrite r, { e with pairs := e.pairs.set i p })
  | .hostReceive i limit =>
    match e.host? i with
    | none => (.noHost, e)
    | some p => let (r, p) := p.hostReceive limit; (.reading r, { e with pairs := e.pairs.set i p })
  | .dropHost i =>
    match e.host? i with
    | none => (.done, e)
    | some p =>
      (.done, { e with pairs := e.pairs.set i p.hostClose, hosts := e.hosts.set i false })
  | .look i => (.written ((e.streams[i]?.map fun s => s.sink.text).getD ""), e)

/-- The answers to actions in turn. -/
def run (actions : List Action) : List Answer :=
  go empty actions
where
  go (e : Exchange) : List Action → List Answer
    | [] => []
    | a :: rest => let (answer, e) := e.apply a; answer :: go e rest

end Exchange

end ScriptLink
