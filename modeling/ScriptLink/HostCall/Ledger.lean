import ScriptLink.HostCall.Basic

/-!
# ScriptLink.HostCall.Ledger — which calls have no reply yet

* `Ledger.issue` enters a call, `Ledger.settle` strikes out the call that a reply refers to. A reply
  refers to a call by the plain text of its id, so the number `1` and the string `"1"` are the same.
* `Ledger.greet` makes the one call by which a session answers its first ping.
-/

namespace ScriptLink

/-- The calls without a reply. -/
structure Ledger where
  /-- The first ping was answered. -/
  greeted : Bool
  pending : List String
  /-- No id is entered twice. -/
  nodup : pending.Nodup
  deriving DecidableEq, Repr

namespace Ledger

def empty : Ledger := ⟨false, [], .nil⟩

instance : Inhabited Ledger := ⟨empty⟩

/-- Enters a call, unless one of its name is there already. -/
def issue (id : String) (l : Ledger) : Ledger :=
  if h : id ∈ l.pending then l
  else
    { l with
      pending := l.pending ++ [id]
      nodup := List.nodup_append.mpr ⟨l.nodup, by simp, by
        intro a ha b hb hab
        rw [List.mem_singleton] at hb
        exact h (hb ▸ hab ▸ ha)⟩ }

/-- Enters calls, one after the other. -/
def issueAll (calls : List HostCall) (l : Ledger) : Ledger :=
  calls.foldl (fun l c => l.issue c.id) l

/-- A call of this id has no reply yet. -/
def awaits (id : String) (l : Ledger) : Bool := l.pending.contains id

/-- The reply refers to a call without a reply. -/
def knows (reply : HostReply) (l : Ledger) : Bool := l.awaits reply.id.plain

/-- Strikes out the call that a reply refers to. -/
def settle (reply : HostReply) (l : Ledger) : Ledger :=
  { l with
    pending := l.pending.erase reply.id.plain
    nodup := l.nodup.erase _ }

/-- What the id of the first call begins with. -/
def greetingPrefix : String := "ts-rust-"

/-- The call by which a session answers its first ping: it names the ping by its number, or by the
time if it has none. -/
def greeting (seq : Option Value) (now : UInt64) : HostCall :=
  let number := seq.map Value.plain
  let shown := number.getD "n/a"
  ⟨greetingPrefix ++ number.getD (toString now.toNat),
    Value.object [("op", .str "uppercase"), ("text", .str s!"hello from ts (seq={shown})")]⟩

/-- The call that a ping brings about, if it is the first one. -/
def greet? (seq : Option Value) (now : UInt64) (l : Ledger) : Option HostCall :=
  if l.greeted then none else some (greeting seq now)

/-- Enters the call that a ping brings about. -/
def greet (seq : Option Value) (now : UInt64) (l : Ledger) : Ledger :=
  match l.greet? seq now with
  | none => l
  | some call => { l with greeted := true }.issue call.id

end Ledger

end ScriptLink
