import ScriptLink.Json.Value
import ScriptLink.Text.Blank

/-!
# ScriptLink.Session.State — what a session is about

* A `Seed` is what a session starts from; its target may be missing.
* A `SessionState` is what frames change: modules are added, auxiliary factors appended, runtime
  arguments replaced. The target stays.
* A target is trimmed and not empty; `SessionState.ofSeed?` refuses any other seed.
-/

namespace ScriptLink

/-- What a session starts from. -/
structure Seed where
  target : Option String
  modules : List String
  factors : List String
  args : List String
  deriving DecidableEq, Repr, Inhabited

/-- The state of a session. -/
structure SessionState where
  target : String
  modules : List String
  factors : List String
  args : List String
  deriving DecidableEq, Repr, Inhabited

namespace SessionState

/-- The state at the beginning, before any module is loaded. -/
def ofSeed? (seed : Seed) : Option SessionState :=
  (seed.target.bind Text.trimmed?).map fun target => ⟨target, [], seed.factors, seed.args⟩

/-- The module is loaded. -/
def has (specifier : String) (s : SessionState) : Bool := s.modules.contains specifier

/-- The state with one more module, unless it is loaded already. -/
def add? (specifier : String) (s : SessionState) : Option SessionState :=
  if s.has specifier then none else some { s with modules := s.modules ++ [specifier] }

/-- The state with more auxiliary factors, duplicates included. -/
def extend (values : List String) (s : SessionState) : SessionState :=
  { s with factors := s.factors ++ values }

/-- Puts arguments in place of those before. -/
def replaceArgs (args : List String) (s : SessionState) : SessionState := { s with args }

/-- The state as a JSON value. -/
def toValue (s : SessionState) : Value :=
  Value.object [("targetSpecifier", .str s.target), ("modules", .strings s.modules),
    ("mfa", .strings s.factors), ("args", .strings s.args)]

end SessionState

end ScriptLink
