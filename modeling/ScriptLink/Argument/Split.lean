import ScriptLink.Argument.Basic

/-!
# ScriptLink.Argument.Split — which arguments are settings

The name of the program, the flags and their values are for the configuration; all other arguments are
for the session, also those that look like flags but stand after the terminator.

* `Argument.sort` looks at the arguments after the name of the program, `Argument.split` at all.
* An argument after a flag that awaits its value is that value, whatever it looks like.
-/

namespace ScriptLink.Argument

/-- The flags with their values, and the texts of the other arguments. The terminator is neither. -/
def sort : List Argument → List Argument × List String
  | [] => ([], [])
  | a :: rest =>
    if a.terminates then ([], rest.map lossy)
    else if a.flag?.isNone then
      let (flags, others) := sort rest
      (flags, a.lossy :: others)
    else if a.awaitsValue then
      match rest with
      | [] => ([a], [])
      | v :: rest =>
        let (flags, others) := sort rest
        (a :: v :: flags, others)
    else
      let (flags, others) := sort rest
      (a :: flags, others)

/-- The arguments of a process in two: its name with the flags, and the texts for the session. -/
def split : List Argument → List Argument × List String
  | [] => ([], [])
  | program :: rest =>
    let (flags, others) := sort rest
    (program :: flags, others)

end ScriptLink.Argument
