import ScriptLink.Argument.Basic

/-!
# ScriptLink.Argument.Settings — settings from flags

`Argument.settings?` reads flags with their values. It refuses a flag that comes twice, a value that is
missing, unsuitable or not a text, a value that begins with a hyphen unless it is attached or nothing
but a hyphen, and a value of a flag that takes none.

The setting of the flag without value is always there: it is false where the flag is not.
-/

namespace ScriptLink.Argument

/-- The settings that flags give. -/
structure Settings where
  /-- The file with more settings. -/
  configPath : Option String
  layer : Layer
  deriving Inhabited

/-- Whether a text may stand after a flag as its value. -/
def standsAlone (s : String) : Bool := s.toList.head? != some '-' || s == "-"

/-- The flags in order, each with its value. -/
def occurrences? : List Argument → Option (List (Flag × Option String))
  | [] => some []
  | .raw .. :: _ => none
  | .text s :: rest =>
    match Flag.ofName? (parts s).1, (parts s).2, rest with
    | none, _, _ => none
    | some f, some v, rest =>
      if f.takesValue then (occurrences? rest).map ((f, some v) :: ·) else none
    | some f, none, .text v :: rest =>
      if f.takesValue then
        if standsAlone v then (occurrences? rest).map ((f, some v) :: ·) else none
      else (occurrences? (.text v :: rest)).map ((f, none) :: ·)
    | some f, none, rest => if f.takesValue then none else (occurrences? rest).map ((f, none) :: ·)

/-- The layer of one flag: its setting with the value that was typed, or true for the flag that takes none. -/
def setting? (f : Flag) (v : Option String) : Option Layer :=
  match v with
  | some v => (f.value? v).map (Layer.single f.setting)
  | none => some (.single f.setting (.bool true))

/-- The settings of flags, unless a flag or its value is refused. -/
def settings? (flags : List Argument) : Option Settings := do
  let found ← occurrences? flags
  if ¬(found.map Prod.fst).Nodup then none
  else
    let layers ← found.mapM fun (f, v) => setting? f v
    let path := (found.lookup .configPath).join
    let off := Layer.single Flag.traceFrames.setting (.bool false)
    if path = some "" then none else return ⟨path, Layer.stack (off :: layers)⟩

end ScriptLink.Argument
