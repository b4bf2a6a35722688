import ScriptLink.Config.Flag
import ScriptLink.Text.Utf8

/-!
# ScriptLink.Argument.Basic — arguments of the command line

An argument is a text, or bytes that are none. `Argument.lossy` is the text of either, `Argument.flag?`
the flag that it names: the flag with the name before its first equals sign, or with its whole text as
the name.
-/

namespace ScriptLink

/-- An argument of the command line. -/
inductive Argument where
  | text (s : String)
  /-- Bytes that are not the text of anything. -/
  | raw (bytes : List UInt8) (invalid : Text.Utf8.decode? bytes = none)
  deriving DecidableEq

namespace Argument

/-- The argument that bytes are. -/
def ofBytes (bytes : List UInt8) : Argument :=
  match h : Text.Utf8.decode? bytes with
  | some s => .text s
  | none => .raw bytes h

/-- The text of an argument, where bytes that belong to no character are replaced. -/
def lossy : Argument → String
  | .text s => s
  | .raw bytes _ => Text.Utf8.lossy bytes

/-- The text of an argument that is one. -/
def text? : Argument → Option String
  | .text s => some s
  | .raw .. => none

/-- What ends the flags: every argument after it goes to the session. -/
def terminator : Argument := .text "--"

/-- The argument ends the flags. -/
def terminates (a : Argument) : Bool := a.lossy == "--"

/-- The text up to the first equals sign, and the text after it if there is one. -/
def parts (s : String) : String × Option String :=
  let cs := s.toList
  (String.ofList (cs.takeWhile (· != '=')), match cs.dropWhile (· != '=') with
    | [] => none
    | _ :: value => some (String.ofList value))

/-- The flag that an argument names. -/
def flag? (a : Argument) : Option Flag := Flag.ofName? (parts a.lossy).1

/-- The argument has an equals sign, and so its value with it. -/
def attached (a : Argument) : Bool := (parts a.lossy).2.isSome

/-- The argument names a flag and the argument after it is its value. -/
def awaitsValue (a : Argument) : Bool :=
  match a.flag? with
  | some f => f.takesValue && !a.attached
  | none => false

end Argument

end ScriptLink
