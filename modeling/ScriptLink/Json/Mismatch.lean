import ScriptLink.Json.Printer
import ScriptLink.Text.Quoted

/-!
# ScriptLink.Json.Mismatch — JSON of another shape than asked for

* `Found` is what stands in the text, `Mismatch` why it is not what was asked for.
* `Mismatch.message` is the wording; a floating-point number is written as in JSON.
-/

namespace ScriptLink.Json

/-- What stands in a text. -/
inductive Found where
  | null
  | boolean (b : Bool)
  | number (n : Number)
  | text (s : String)
  | sequence
  | map
  deriving DecidableEq, Repr, Inhabited

def ticked (name : String) : String := "`" ++ name ++ "`"

/-- How a value that was found is named. -/
def Found.message : Found → String
  | .null => "null"
  | .boolean b => "boolean " ++ ticked (if b then "true" else "false")
  | .number (.int i) => "integer " ++ ticked (String.ofList (Number.integerChars i))
  | .number (.real x) => "floating point " ++ ticked (String.ofList (Number.realChars x))
  | .text s => "string " ++ Text.quoted s
  | .sequence => "sequence"
  | .map => "map"

/-- Why JSON is not what was asked for. -/
inductive Mismatch where
  | kind (found : Found) (expected : String)
  | unknownField (name : String) (known : List String)
  | duplicateField (name : String)
  /-- A sequence has too few items for a record. -/
  | tooShort (count : Nat) (expected : String)
  /-- A text is not one of the names that are known. -/
  | unknownName (name : String) (known : List String)
  deriving DecidableEq, Repr, Inhabited

/-- Names as a choice in running text. -/
def oneOf (names : List String) : String :=
  match names with
  | [] => "there are no fields"
  | [a] => "expected " ++ ticked a
  | [a, b] => "expected " ++ ticked a ++ " or " ++ ticked b
  | names => "expected one of " ++ ", ".intercalate (names.map ticked)

def Mismatch.message : Mismatch → String
  | .kind found expected => s!"invalid type: {found.message}, expected {expected}"
  | .unknownField name known => "unknown field " ++ ticked name ++ ", " ++ oneOf known
  | .duplicateField name => "duplicate field " ++ ticked name
  | .tooShort count expected => s!"invalid length {count}, expected {expected}"
  | .unknownName name known => "unknown variant " ++ ticked name ++ ", " ++ oneOf known

end ScriptLink.Json
