import ScriptLink.Module.Fallback
import ScriptLink.Module.Handler

/-!
# ScriptLink.Module.Loader — importing modules into a session

* `Loader.search` tries a specifier and then its fallback candidates, each once, until one is found;
  the error of a search without success is that of its first attempt.
* `Scene.adopt` adds a module to the state and, unless it is the target, installs it. A module whose
  specifier is there already is neither added nor installed again.
* `Loader.preload` adopts modules in turn up to the first that is not found; `Loader.loadLive` adopts
  one while the session runs.
-/

namespace ScriptLink

/-! ## Searching -/

/-- What a search for a module tried and found. -/
structure Search (σ : Type) where
  attempts : List String
  found : Except ImportFault (ScriptModule σ)
  /-- The memory after the attempts. -/
  memory : σ

/-- What finds modules, and in which other directories it looks. -/
structure Loader (σ : Type) where
  importer : Importer σ
  segments : List String

namespace Loader

/-- The fallback candidates of a specifier. -/
def candidates (l : Loader σ) (specifier : String) : List String :=
  Fallback.candidates l.segments specifier

/-- Tries specifiers in turn, each with the memory that the one before left; if all fail, the search ends
with the error `first`. -/
def searchAll (l : Loader σ) (first : ImportFault) : List String → σ → Search σ
  | [], memory => ⟨[], .error first, memory⟩
  | specifier :: rest, memory =>
    match l.importer specifier memory with
    | (.ok m, memory) => ⟨[specifier], .ok m, memory⟩
    | (.error _, memory) =>
      let later := l.searchAll first rest memory
      { later with attempts := specifier :: later.attempts }

/-- Tries a specifier and then its fallback candidates. -/
def search (l : Loader σ) (specifier : String) (memory : σ) : Search σ :=
  match l.importer specifier memory with
  | (.ok m, memory) => ⟨[specifier], .ok m, memory⟩
  | (.error first, memory) =>
    let later := l.searchAll first (l.candidates specifier) memory
    { later with attempts := specifier :: later.attempts }

end Loader

/-! ## Adopting -/

/-- What happened in a session beside its state. -/
structure Trail (σ : Type) where
  imports : List String
  memory : σ

/-- The state of a session, its global scope, and what happened so far. -/
structure Scene (σ : Type) where
  state : SessionState
  globals : Globals σ
  trail : Trail σ

namespace Scene

/-- The scene after a search, before anything is made of what it found. -/
def searched (found : Search σ) (s : Scene σ) : Scene σ :=
  { s with trail := ⟨s.trail.imports ++ found.attempts, found.memory⟩ }

/-- Puts the handlers that a module installs over those that are there. -/
def install (m : ScriptModule σ) (s : Scene σ) : Scene σ :=
  { s with globals := m.installs.above s.globals, trail.memory := m.onInstall s.trail.memory }

/-- Adds a module under a specifier, unless that is there already, and installs it, unless it is the
target, which was installed before. -/
def adopt (specifier : String) (m : ScriptModule σ) (s : Scene σ) : Scene σ :=
  match s.state.add? specifier with
  | none => s
  | some state =>
    if specifier = state.target then { s with state } else { s with state }.install m

end Scene

namespace Loader

/-- Loads a module while the session runs. -/
def loadLive (l : Loader σ) (specifier : String) (s : Scene σ) :
    Except ImportFault Unit × Scene σ :=
  let search := l.search specifier s.trail.memory
  let s := s.searched search
  match search.found with
  | .error e => (.error e, s)
  | .ok m => (.ok (), s.adopt specifier m)

/-- Loads modules in turn, up to the first that is not found. -/
def preload (l : Loader σ) : List String → Scene σ → Except LoadFault Unit × Scene σ
  | [], s => (.ok (), s)
  | specifier :: rest, s =>
    match l.loadLive specifier s with
    | (.error e, s) => (.error (.preload specifier e), s)
    | (.ok (), s) => l.preload rest s

/-- The modules that loading added: those of the state after it that the state before it had not. -/
def added (before after : Scene σ) : List String :=
  after.state.modules.drop before.state.modules.length

end Loader

end ScriptLink
