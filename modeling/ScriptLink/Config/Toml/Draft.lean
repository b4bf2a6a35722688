import ScriptLink.Json.Value

/-!
# ScriptLink.Config.Toml.Draft — a document while it is read

A draft holds the value of what was read so far and remembers how each place in it was defined.

* `Draft.define?` enters a value under a key, `Draft.openTable?` and `Draft.openRow?` enter the table of a
  header. They refuse what would define a place again.
* A table of a header may be filled where it was only on the way to another one. A key with points goes
  through tables that no header opened and through the last table of a row, and must end in a table made by
  such a key.
-/

namespace ScriptLink.Config.Toml

/-- A part of the place of a value: a key, or a number among tables of one name. -/
inductive Part where
  | key (name : String)
  | nth (index : Nat)
  deriving DecidableEq, Repr, Inhabited

/-- How a place was defined. -/
inductive Role where
  | value
  /-- By a header. -/
  | table
  /-- As the beginning of a header. -/
  | above
  /-- As the beginning of a key. -/
  | dotted
  /-- By headers of tables in a row, so many. -/
  | row (count : Nat)
  deriving DecidableEq, Repr, Inhabited

/-- Where in a document a value stands. -/
abbrev Place : Type := List Part

/-- Changes the item of the given number; one number beyond the items is a new item. -/
def alterNth (f : Value → Value) : Nat → List Value → List Value
  | _, [] => [f (.obj [])]
  | 0, item :: rest => f item :: rest
  | n + 1, item :: rest => item :: alterNth f n rest

/-- The value with `v` at a place; tables on the way that are missing are made. -/
def plant (v : Value) : Place → Value → Value
  | [], _ => v
  | .key name :: rest, .obj members =>
    .obj (Value.insertMember name (plant v rest ((members.lookup name).getD (.obj []))) members)
  | .nth n :: rest, .arr items => .arr (alterNth (plant v rest) n items)
  | .nth _ :: rest, _ => .arr [plant v rest (.obj [])]
  | .key name :: rest, _ => .obj [(name, plant v rest (.obj []))]

/-- A document while it is read. -/
structure Draft where
  /-- How places were defined, the latest first. -/
  roles : List (Place × Role)
  content : Value
  deriving Inhabited

namespace Draft

def empty : Draft := ⟨[], .obj []⟩

/-- How a place was defined, if it was. -/
def role? (d : Draft) (place : Place) : Option Role := d.roles.lookup place

/-- Remembers how a place was defined. -/
def note (d : Draft) (place : Place) (r : Role) : Draft := { d with roles := (place, r) :: d.roles }

/-- Puts a value at a place. -/
def put (d : Draft) (place : Place) (v : Value) : Draft := { d with content := plant v place d.content }

/-! ## Headers -/

/-- Goes through the tables of a header but the last, and makes what is missing on the way. -/
def descend? (d : Draft) (place : Place) : List String → Option (Place × Draft)
  | [] => some (place, d)
  | name :: names =>
    let next := place ++ [.key name]
    match d.role? next with
    | none => descend? (d.note next .above) next names
    | some .value => none
    | some (.row count) => descend? d (next ++ [.nth (count - 1)]) names
    | some _ => descend? d next names

/-- The table of a header: its place, and the draft with it. -/
def openTable? (d : Draft) (header : List String) : Option (Place × Draft) := do
  let name ← header.getLast?
  let (above, d) ← d.descend? [] header.dropLast
  let place := above ++ [.key name]
  match d.role? place with
  | none => return (place, (d.note place .table).put place (.obj []))
  | some .above => return (place, d.note place .table)
  | some _ => none

/-- One more table of a row: its place, and the draft with it. -/
def openRow? (d : Draft) (header : List String) : Option (Place × Draft) := do
  let name ← header.getLast?
  let (above, d) ← d.descend? [] header.dropLast
  let place := above ++ [.key name]
  let opened (count : Nat) : Place × Draft :=
    let last := place ++ [.nth count]
    (last, (d.note place (.row (count + 1))).put last (.obj []))
  match d.role? place with
  | none => return opened 0
  | some (.row count) => return opened count
  | some _ => none

/-! ## Keys -/

/-- Goes through the parts of a key but the last, from a table in which keys may end. -/
def follow? (d : Draft) (place : Place) (ends : Bool) : List String → Option (Place × Draft)
  | [] => if ends then some (place, d) else none
  | name :: names =>
    let next := place ++ [.key name]
    match d.role? next with
    | none => follow? (d.note next .dotted) next true names
    | some .dotted => follow? d next true names
    | some .above => follow? d next false names
    | some (.row count) => follow? d (next ++ [.nth (count - 1)]) false names
    | some .table => none
    | some .value => none

/-- Enters a value under a key within the table at `place`. -/
def define? (d : Draft) (place : Place) (key : List String) (v : Value) : Option Draft := do
  let name ← key.getLast?
  let (table, d) ← d.follow? place true key.dropLast
  let place := table ++ [.key name]
  match d.role? place with
  | none => return (d.note place .value).put place v
  | some _ => none

end Draft

end ScriptLink.Config.Toml
