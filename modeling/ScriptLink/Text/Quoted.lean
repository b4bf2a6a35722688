import ScriptLink.Text.Visible.Table

/-!
# ScriptLink.Text.Quoted — text between quotation marks, for people to read

Quotation marks, backslashes and characters that are not seen are written with a backslash: tab, line
feed, carriage return and zero by a letter or figure, any other by its number.
-/

namespace ScriptLink.Text

/-- Whether a character is seen by itself. -/
def isVisible (c : Char) : Bool :=
  !Visible.hidden.any fun (first, last) => first ≤ c.toNat && c.toNat ≤ last

/-- A character as it stands between quotation marks. -/
def quotedChar (c : Char) : List Char :=
  match c with
  | '\x00' => ['\\', '0']
  | '\t' => ['\\', 't']
  | '\r' => ['\\', 'r']
  | '\n' => ['\\', 'n']
  | '"' => ['\\', '"']
  | '\\' => ['\\', '\\']
  | c =>
    if isVisible c then [c]
    else ['\\', 'u', '\x7b'] ++ Nat.toDigits 16 c.toNat ++ ['\x7d']

/-- The text between quotation marks. -/
def quoted (s : String) : String :=
  String.ofList ('"' :: (s.toList.flatMap quotedChar ++ ['"']))

end ScriptLink.Text
