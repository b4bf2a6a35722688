import ScriptLink.Text.UpperCase.Table

/-!
# ScriptLink.Text.UpperCase — upper case by the full Unicode mapping

A character becomes one, two or three characters, whatever stands around it, and the text becomes
the concatenation.
-/

namespace ScriptLink.Text

namespace UpperCase

/-- Whether the run moves the character with this number. -/
def Run.covers (r : Run) (n : Nat) : Bool :=
  r.first ≤ n && n ≤ r.last && (n - r.first) % r.step == 0

/-- The characters that a character becomes. -/
def ofChar (c : Char) : List Char :=
  match specials.lookup c.toNat with
  | some ns => ns.map Char.ofNat
  | none =>
    match runs.find? fun r => r.covers c.toNat with
    | some r => [Char.ofNat (c.toNat + r.shift).toNat]
    | none => [c]

end UpperCase

/-- The text in upper case. -/
def upperCase (s : String) : String :=
  String.ofList (s.toList.flatMap UpperCase.ofChar)

end ScriptLink.Text
