/-!
# ScriptLink.Text.Blank — white space, trimming and splitting

* `isBlank` is the Unicode property `White_Space`.
* `stripBy p` takes from both ends of a text the characters that `p` accepts; `trim` does so for
  white space, and `trimmed?` refuses a text of which nothing is left.
* `split` cuts a string at every separator.
-/

namespace ScriptLink.Text

/-- The characters with the Unicode property `White_Space`. -/
def isBlank (c : Char) : Bool :=
  let n := c.toNat
  (9 ≤ n && n ≤ 13) || n == 0x20 || n == 0x85 || n == 0xA0 || n == 0x1680 ||
    (0x2000 ≤ n && n ≤ 0x200A) || n == 0x2028 || n == 0x2029 || n == 0x202F || n == 0x205F ||
    n == 0x3000

/-! ## Trimming -/

/-- The text without the longest ending that `p` accepts throughout. -/
def stripEndBy (p : Char → Bool) (cs : List Char) : List Char :=
  (cs.reverse.dropWhile p).reverse

/-- The text without the longest beginning and the longest ending that `p` accepts throughout. -/
def stripBy (p : Char → Bool) (cs : List Char) : List Char :=
  stripEndBy p (cs.dropWhile p)

/-- The text without white space around it. -/
def trim (s : String) : String :=
  String.ofList (stripBy isBlank s.toList)

/-- The text without white space around it, unless nothing is left. -/
def trimmed? (s : String) : Option String :=
  if trim s = "" then none else some (trim s)

/-- The text is empty or all white space. -/
def blank (s : String) : Bool :=
  s.toList.all isBlank

@[simp] theorem stripEndBy_nil (p : Char → Bool) : stripEndBy p [] = [] := rfl

@[simp] theorem stripBy_nil (p : Char → Bool) : stripBy p [] = [] := rfl

/-! ## Splitting -/

/-- The pieces of a string between the separators `sep`, one more than there are separators. -/
def split (sep : Char) (s : String) : List String :=
  (s.toList.splitOn sep).map String.ofList

end ScriptLink.Text
