/-!
# ScriptLink.Config.Choice — settings with a few named values

A choice has one name under which it is written and read back exactly, and may have other spellings.
Where a person types it, capital and small letters count the same (`ofText?`); in files and variables
they do not (`ofName?`).
-/

namespace ScriptLink

/-- How log lines are written. -/
inductive LogFormat where
  /-- One JSON object for each event. -/
  | json
  /-- One line of text for each event. -/
  | compact
  deriving DecidableEq, Repr, Inhabited

/-- How the host drives a session. -/
inductive DriveMode where
  /-- It sends pings at intervals and stops the session after some answers. -/
  | oneshot
  /-- It forwards external input until that is closed, and sends no pings. -/
  | persistent
  deriving DecidableEq, Repr, Inhabited

namespace Choice

def ofName? (spellings : List (String × α)) (name : String) : Option α := spellings.lookup name

/-- The text with the letters `A` to `Z` small. -/
def lowered (s : String) : String := String.ofList (s.toList.map Char.toLower)

/-- The value of a spelling, in capital or small letters. -/
def ofText? (spellings : List (String × α)) (text : String) : Option α :=
  ofName? spellings (lowered text)

/-- How a spelling is refused that no value has. -/
def notFound : String := "Matching variant not found"

end Choice

namespace LogFormat

def name : LogFormat → String
  | .json => "json"
  | .compact => "compact"

def spellings : List (String × LogFormat) := [("json", .json), ("compact", .compact)]

def ofName? : String → Option LogFormat := Choice.ofName? spellings

def ofText? : String → Option LogFormat := Choice.ofText? spellings

@[simp] theorem ofName?_name (f : LogFormat) : ofName? f.name = some f := by cases f <;> decide

end LogFormat

namespace DriveMode

def name : DriveMode → String
  | .oneshot => "oneshot"
  | .persistent => "persistent"

def spellings : List (String × DriveMode) :=
  [("oneshot", .oneshot), ("one_shot", .oneshot), ("persistent", .persistent)]

def ofName? : String → Option DriveMode := Choice.ofName? spellings

def ofText? : String → Option DriveMode := Choice.ofText? spellings

@[simp] theorem ofName?_name (m : DriveMode) : ofName? m.name = some m := by cases m <;> decide

end DriveMode

end ScriptLink
