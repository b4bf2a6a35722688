import ScriptLink.Frame.Basic
import ScriptLink.Json.Reader
import ScriptLink.Text.Blank

/-!
# ScriptLink.Frame.Decode — the frame on a line

Decoding never fails. A line that is no JSON becomes `Frame.text`; JSON whose `type` is absent, is no
string, names no kind, or stands over members that do not suit the kind becomes `Frame.unknown` with
the value of `type`.

* `ofMembers? k v` reads the members of kind `k`; members that the kind does not have are ignored.
* An optional member that is `null` counts as absent; a required one may be `null` only where its
  value is free.
* A line that names the kind `text` did not come about as one, so it is unknown.
-/

namespace ScriptLink.Frame

/-! ## Members by name -/

/-- An optional free member; `null` counts as absent. -/
def free? (name : String) (v : Value) : Option Value :=
  (v.get? name).bind Value.present?

/-- A free member that is `null` when absent. -/
def freeOrNull (name : String) (v : Value) : Value :=
  (v.get? name).getD .null

/-- A typed member that stands for `absent` where it is missing. -/
def typedOr (read : Value → Option α) (absent : α) (name : String) (v : Value) : Option α :=
  match v.get? name with
  | none => some absent
  | some w => read w

/-- A typed member that must be there. -/
def typed (read : Value → Option α) (name : String) (v : Value) : Option α :=
  (v.get? name).bind read

/-- A text, or `null` for none. -/
def optionalText? : Value → Option (Option String)
  | .null => some none
  | .str s => some (some s)
  | _ => none

/-! ## Frames by kind -/

/-- The frame of the given kind with the members of `v`. -/
def ofMembers? (k : Kind) (v : Value) : Option Frame :=
  match k with
  | .ready => do
    let target ← typedOr Value.asString? "" "targetSpecifier" v
    let exportedHandler ← typedOr Value.asBool? false "hasExportedHandler" v
    let globalHandler ← typedOr Value.asBool? false "hasGlobalHandler" v
    let replyHandler ← typedOr Value.asBool? false "hasRustResultHandler" v
    let factorHandler ← typedOr Value.asBool? false "hasMfaUpdateHandler" v
    let modules ← typedOr Value.asStrings? [] "modules" v
    let factors ← typedOr Value.asStrings? [] "mfa" v
    let args ← typedOr Value.asStrings? [] "args" v
    return .ready ⟨target, exportedHandler, globalHandler, replyHandler, factorHandler, modules,
      factors, args⟩
  | .ping => some (.ping (free? "seq" v))
  | .pong => do return .pong (← v.get? "seq") (← typed Value.asWord? "at" v)
  | .message => some (.message (free? "id" v) (freeOrNull "payload" v))
  | .externalMessage => some (.externalMessage (free? "id" v) (freeOrNull "payload" v))
  | .messageResult => do return .messageResult (free? "id" v) (← v.get? "result")
  | .error => do return .error (free? "id" v) (← typed Value.asString? "error" v)
  | .load => some (.load (free? "id" v) (free? "specifier" v))
  | .loaded => do
    return .loaded (free? "id" v) (← typed Value.asString? "specifier" v)
      (← typed Value.asStrings? "modules" v)
  | .loadError => do
    return .loadError (free? "id" v) (← typedOr optionalText? none "specifier" v)
      (← typed Value.asString? "error" v)
  | .factors => some (.factors (free? "id" v) (free? "values" v) (free? "value" v))
  | .factorsUpdated => do
    return .factorsUpdated (free? "id" v) (← typed Value.asStrings? "mfa" v)
  | .arguments => some (.arguments (free? "id" v) (free? "args" v))
  | .argumentsUpdated => do
    return .argumentsUpdated (free? "id" v) (← typed Value.asStrings? "args" v)
  | .hostCall => do return .hostCall (← v.get? "id") (← v.get? "payload")
  | .hostResult => some (.hostResult (freeOrNull "id" v) (freeOrNull "result" v))
  | .hostError => some (.hostError (freeOrNull "id" v) (free? "error" v))
  | .shutdown => some (.shutdown (free? "reason" v))
  | .shutdownAck => do return .shutdownAck (← typed Value.asString? "reason" v)
  | .unknown => some (.unknown (freeOrNull "receivedType" v))
  | .text => none

/-- The value of `type`, or `null` where there is none. -/
def receivedType (v : Value) : Value := freeOrNull "type" v

/-- The frame that a JSON value is. -/
def ofValue (v : Value) : Frame :=
  match receivedType v with
  | .str name => ((Kind.ofName? name).bind fun k => ofMembers? k v).getD (.unknown (.str name))
  | received => .unknown received

/-! ## Lines -/

def isLineEnd (c : Char) : Bool := c == '\n' || c == '\r'

/-- The line without the line ends behind it. -/
def withoutEnd (line : String) : String :=
  String.ofList (Text.stripEndBy isLineEnd line.toList)

/-- The frame on a line. -/
def decode (line : String) : Frame :=
  match Value.ofText? (withoutEnd line) with
  | none => .text (withoutEnd line)
  | some v => ofValue v

end ScriptLink.Frame
