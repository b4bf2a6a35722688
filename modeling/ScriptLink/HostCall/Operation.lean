import ScriptLink.Json.Printer
import ScriptLink.Text.UpperCase

/-!
# ScriptLink.HostCall.Operation — what the host does for the script side

* `execute` runs the operation that a payload names, `echo` when it names none.
* `HostCall.Refusal` says why an operation is not run; `Refusal.message` is its wording.
* An `Executor` is any function of this kind; the rest of the library takes it as given.
-/

namespace ScriptLink.HostCall

/-- Why the host does not run an operation. -/
inductive Refusal where
  | unsupported (op : String)
  | invalidArgument (op : String) (expected : String)
  | nonNumeric (op : String)
  deriving DecidableEq, Repr, Inhabited

def Refusal.message : Refusal → String
  | .unsupported op => s!"unsupported rust_call op: {op}"
  | .invalidArgument op expected => s!"rust_call.{op} requires {expected}"
  | .nonNumeric op => s!"rust_call.{op} expects numbers only"

/-- What runs the payload of a host call. -/
abbrev Executor := Value → Except Refusal Value

/-- A result that names its operation. -/
def outcome (op : String) (output : Value) : Value :=
  Value.object [("op", .str op), ("output", output)]

/-- The text of a payload in upper case. -/
def uppercase (payload : Value) : Except Refusal Value :=
  match (payload.get? "text").bind Value.asString? with
  | some text => .ok (outcome "uppercase" (.str (Text.upperCase text)))
  | none => .error (.invalidArgument "uppercase" "string field `text`")

/-- The value as a number for the sum. -/
def asReal? : Value → Option Binary64
  | .num n => n.toReal?
  | _ => none

/-- The sum of the field `values`; an infinite sum is `null`. -/
def sum (payload : Value) : Except Refusal Value :=
  match (payload.get? "values").bind Value.asArray? with
  | none => .error (.invalidArgument "sum" "array field `values`")
  | some items =>
    match items.mapM asReal? with
    | none => .error (.nonNumeric "sum")
    | some xs =>
      .ok (outcome "sum" (((Binary64.sum? xs).map fun x => Value.num (.real x)).getD .null))

/-- The operation that a payload names; without a name it is an echo. -/
def operation (payload : Value) : String :=
  ((payload.get? "op").bind Value.asString?).getD "echo"

/-- What the host does with the payload of a call. -/
def execute : Executor := fun payload =>
  match operation payload with
  | "uppercase" => uppercase payload
  | "sum" => sum payload
  | "echo" => .ok (outcome "echo" payload)
  | op => .error (.unsupported op)

end ScriptLink.HostCall
