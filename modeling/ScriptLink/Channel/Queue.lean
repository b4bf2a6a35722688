import ScriptLink.Channel.Basic

/-!
# ScriptLink.Channel.Queue — a queue with two ends

What is put in at one end is taken out at the other in the same order; either end can hang up. The
receiving end still gets what was put in before the sending end hung up.

* `Queue.send?` puts one item in, unless the receiving end is gone.
* `Queue.take?` takes the oldest item out.
-/

namespace ScriptLink

/-- A queue and the state of its ends. -/
structure Queue (α : Type) where
  /-- What was put in and not taken out, oldest first. -/
  items : List α
  senderOpen : Bool
  receiverOpen : Bool
  deriving DecidableEq, Repr

namespace Queue

def empty : Queue α := ⟨[], true, true⟩

instance : Inhabited (Queue α) := ⟨empty⟩

/-- The queue with one more item, unless the receiving end is gone. -/
def send? (x : α) (q : Queue α) : Option (Queue α) :=
  if q.receiverOpen then some { q with items := q.items ++ [x] } else none

/-- The oldest item, and the queue without it. -/
def take? (q : Queue α) : Option (α × Queue α) :=
  match q.items with
  | [] => none
  | x :: rest => some (x, { q with items := rest })

/-- The sending end hangs up; what it put in can still be taken. -/
def closeSender (q : Queue α) : Queue α := { q with senderOpen := false }

/-- The receiving end hangs up; nothing more can be put in. -/
def closeReceiver (q : Queue α) : Queue α := { q with receiverOpen := false }

/-- A read of a queue of lines: the oldest line, or what its absence means. -/
def receive (limit : Option Nat) (q : Queue String) : Reading × Queue String :=
  match q.take? with
  | some (line, rest) => (.line line, rest)
  | none => (if q.senderOpen then Reading.ofLimit limit else .failed .closed, q)

/-- A line put in, and how many bytes it takes. -/
def write (line : String) (q : Queue String) : Except ChannelError Nat × Queue String :=
  match q.send? line with
  | some q => (.ok (lineBytes line), q)
  | none => (.error .closed, q)

@[simp] theorem take?_nil (s r : Bool) : take? (⟨[], s, r⟩ : Queue α) = none := rfl

@[simp] theorem take?_cons (x : α) (rest : List α) (s r : Bool) :
    take? ⟨x :: rest, s, r⟩ = some (x, ⟨rest, s, r⟩) := rfl

end Queue

end ScriptLink
