import ScriptLink.Json.Shape
import ScriptLink.Text.Blank

/-!
# ScriptLink.Config.Runtime — the runtime configuration

A JSON object with at most the three keys `targetSpecifier`, `modules` and `mfa`, none of them twice; an
array of their values in this order does as well. What is absent is empty.
-/

namespace ScriptLink

/-- The target and the lists with which a session starts. -/
structure RuntimeConfig where
  target : Option String
  /-- The modules to load before the session begins. -/
  modules : List String
  factors : List String
  deriving DecidableEq, Repr, Inhabited

namespace RuntimeConfig

def empty : RuntimeConfig := ⟨none, [], []⟩

/-- The keys of a runtime configuration, in the order of an array. -/
def shape : Json.Shape RuntimeConfig where
  fields :=
    [.of "targetSpecifier" (Json.optional Json.text) fun c target => { c with target },
      .of "modules" (Json.listOf Json.text) fun c modules => { c with modules },
      .of "mfa" (Json.listOf Json.text) fun c factors => { c with factors }]
  lenient := false
  complete := false
  expected := "RuntimeConfig"

/-- The runtime configuration that a text describes. -/
def read (s : String) : Except Json.ReadError RuntimeConfig :=
  Json.whole (Json.record shape empty) s.toList

/-- The target without white space around it, unless it is blank. -/
def target? (c : RuntimeConfig) : Option String := c.target.bind Text.trimmed?

/-- The runtime configuration as a JSON value; a target that is absent is left out. -/
def toValue (c : RuntimeConfig) : Value :=
  .obj ((c.target.map fun t => ("targetSpecifier", Value.str t)).toList ++
    [("modules", .strings c.modules), ("mfa", .strings c.factors)])

end RuntimeConfig

end ScriptLink
