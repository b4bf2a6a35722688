import ScriptLink.Json.Value

/-!
# ScriptLink.Module.Memory — what modules remember

The modules of this library share one memory: how many messages were relayed, and what the modules
made of recipes saw.
-/

namespace ScriptLink

/-- Something that a module saw. -/
inductive Sighting where
  | installed (specifier : String)
  /-- The handler of this name was given this request. -/
  | handled (name : String) (request : Value)
  deriving Inhabited

/-- The memory of the modules. -/
structure Memory where
  relayed : Nat
  sightings : List Sighting
  deriving Inhabited

namespace Memory

def empty : Memory := ⟨0, []⟩

/-- Notes what a module saw. -/
def see (s : Sighting) (m : Memory) : Memory := { m with sightings := m.sightings ++ [s] }

end Memory

end ScriptLink
