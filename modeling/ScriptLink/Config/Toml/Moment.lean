/-!
# ScriptLink.Config.Toml.Moment — dates and times

`isMoment` says which texts are a date, a time of day, or both, the last with an offset from universal
time or without. A day is one of its month, and a minute may have a sixty-first second.
-/

namespace ScriptLink.Config.Toml

/-- The number of so many figures in front, and the rest. -/
def figures? (count : Nat) (cs : List Char) : Option (Nat × List Char) :=
  let ds := cs.take count
  if ds.length = count ∧ ds.all Char.isDigit then some (Nat.ofDigitChars 10 ds 0, cs.drop count)
  else none

/-- Numbers of the given lengths with a mark between them, and the rest. -/
def numbers? (mark : Char) : List Nat → List Char → Option (List Nat × List Char)
  | [], cs => some ([], cs)
  | [count], cs => (figures? count cs).map fun (n, rest) => ([n], rest)
  | count :: counts, cs => do
    let (n, rest) ← figures? count cs
    match rest with
    | c :: rest =>
      if c = mark then
        let (ns, rest) ← numbers? mark counts rest
        return (n :: ns, rest)
      else none
    | [] => none

def isLeap (year : Nat) : Bool := year % 4 == 0 && (year % 100 != 0 || year % 400 == 0)

/-- How many days a month has. -/
def daysOf (year month : Nat) : Nat :=
  if month = 2 then if isLeap year then 29 else 28
  else if [4, 6, 9, 11].contains month then 30
  else 31

/-- The rest after a date. -/
def date? (cs : List Char) : Option (List Char) :=
  match numbers? '-' [4, 2, 2] cs with
  | some ([year, month, day], rest) =>
    if 1 ≤ month ∧ month ≤ 12 ∧ 1 ≤ day ∧ day ≤ daysOf year month then some rest else none
  | _ => none

/-- The rest after a time of day, with fractions of a second or without. -/
def time? (cs : List Char) : Option (List Char) :=
  match numbers? ':' [2, 2, 2] cs with
  | some ([hour, minute, second], rest) =>
    if hour ≤ 23 ∧ minute ≤ 59 ∧ second ≤ 60 then
      match rest with
      | '.' :: c :: rest => if c.isDigit then some (rest.dropWhile Char.isDigit) else none
      | ['.'] => none
      | rest => some rest
    else none
  | _ => none

/-- The rest after an offset from universal time. -/
def offset? (cs : List Char) : Option (List Char) :=
  let signed (rest : List Char) : Option (List Char) :=
    match numbers? ':' [2, 2] rest with
    | some ([hour, minute], rest) => if hour ≤ 23 ∧ minute ≤ 59 then some rest else none
    | _ => none
  match cs with
  | 'Z' :: rest => some rest
  | 'z' :: rest => some rest
  | '+' :: rest => signed rest
  | '-' :: rest => signed rest
  | _ => none

/-- What may stand between a date and a time. -/
def isJoint (c : Char) : Bool := c == 'T' || c == 't' || c == ' '

def isDate (cs : List Char) : Bool := date? cs == some []

def isMoment (cs : List Char) : Bool :=
  time? cs == some [] || match date? cs with
    | none => false
    | some [] => true
    | some (c :: rest) => isJoint c && match time? rest with
      | none => false
      | some rest => rest.isEmpty || offset? rest == some []

end ScriptLink.Config.Toml
