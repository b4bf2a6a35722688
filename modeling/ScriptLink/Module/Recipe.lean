import ScriptLink.Module.Handler
import ScriptLink.Module.Memory

/-!
# ScriptLink.Module.Recipe — modules described by data

A recipe says what a handler does: which calls it makes, and whether it fails or what it returns.
Every handler of a recipe first notes in the memory what it was given; a module of recipes notes when
it is installed.

Neither a session nor a host uses recipes. A handler is a function, and recipes are for whoever writes modules down
and hands them over as text. `Cookbook.toModule` makes an ordinary module of them, to which all applies that
applies to any module.

* `Delivery.toValue`, `HostReply.toValue` and `FactorUpdate.toValue` are the requests as JSON values.
* `Recipe.handler` is the handler of a recipe, `Cookbook.toModule` the module of several.
-/

namespace ScriptLink

/-! ## Requests as values -/

/-- A message as a value; an id that is absent or `null` is left out. -/
def Delivery.toValue (d : Delivery) : Value :=
  let kind := match d.origin with
    | .host => "message"
    | .external => "external"
  Value.object ((((d.id.bind Value.present?).map fun id => ("id", id)).toList) ++
    [("kind", .str kind), ("payload", d.payload)])

/-- A text request as a value. -/
def requestValue (request : String) : Value := Value.object [("request", .str request)]

/-- A reply as a value. -/
def HostReply.toValue : HostReply → Value
  | .result id v => Value.object [("id", id), ("ok", .bool true), ("result", v)]
  | .error id why => Value.object [("id", id), ("ok", .bool false), ("error", .str why)]

/-- A notice of new factors as a value; an id that is absent is left out. -/
def FactorUpdate.toValue (u : FactorUpdate) : Value :=
  Value.object (((u.id.map fun id => ("id", id)).toList) ++
    [("added", .strings u.added), ("mfa", .strings u.factors)])

/-! ## Recipes -/

/-- What a handler does in the end. -/
inductive Deed where
  | fail (why : String)
  | abort (why : String)
  | state
  | give (v : Value)
  | echo
  deriving Inhabited

/-- A handler as data. -/
structure Recipe where
  name : String
  calls : List HostCall
  deed : Deed
  deriving Inhabited

namespace Recipe

/-- The result of a recipe. -/
def result (r : Recipe) (request : Value) (state : SessionState) : Except HandlerFault Value :=
  match r.deed with
  | .fail why => .error (.failed why)
  | .abort why => .error (.fatal why)
  | .state => .ok state.toValue
  | .give v => .ok v
  | .echo => .ok request

/-- The handler; `show` gives the request as a value, `keep` what is kept of the result. -/
def handler (r : Recipe) (toValue : ρ → Value) (keep : Value → α) : Handler Memory ρ α :=
  fun request state memory =>
    let v := toValue request
    (⟨r.calls, (r.result v state).map keep⟩, memory.see (.handled r.name v))

def onMessage (r : Recipe) : Handler Memory Delivery Value := r.handler Delivery.toValue id

def onRequest (r : Recipe) : Handler Memory String Value := r.handler requestValue id

/-- The handler of replies, whose result is not kept. -/
def onReply (r : Recipe) : Handler Memory HostReply Unit :=
  r.handler HostReply.toValue fun _ => ()

def onFactors (r : Recipe) : Handler Memory FactorUpdate Unit :=
  r.handler FactorUpdate.toValue fun _ => ()

end Recipe

/-! ## Modules of recipes -/

/-- A recipe for each kind of request. -/
structure Recipes where
  message : Option Recipe := none
  request : Option Recipe := none
  reply : Option Recipe := none
  factors : Option Recipe := none
  deriving Inhabited

/-- A module as data. -/
structure Cookbook where
  specifier : String
  /-- What the module exports; a module exports no handler of text requests. -/
  exports : Recipes := {}
  installs : Recipes := {}
  deriving Inhabited

/-- The module that a cookbook describes. -/
def Cookbook.toModule (b : Cookbook) : ScriptModule Memory where
  exports :=
    { message := b.exports.message.map Recipe.onMessage
      reply := b.exports.reply.map Recipe.onReply
      factors := b.exports.factors.map Recipe.onFactors }
  installs :=
    { message := b.installs.message.map Recipe.onMessage
      request := b.installs.request.map Recipe.onRequest
      reply := b.installs.reply.map Recipe.onReply
      factors := b.installs.factors.map Recipe.onFactors }
  onInstall := Memory.see (.installed b.specifier)

/-! ## Shelves -/

/-- What is known under one specifier: a module, or why it does not load. -/
abbrev Shelf : Type := List (String × Except String (ScriptModule Memory))

def Shelf.importer (shelf : Shelf) : Importer Memory := .ofFind fun specifier =>
  match shelf.lookup specifier with
  | some (.ok m) => .ok m
  | some (.error why) => .error (.failed specifier why)
  | none => .error (.notFound specifier)

end ScriptLink
