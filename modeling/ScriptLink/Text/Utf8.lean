/-!
# ScriptLink.Text.Utf8 — bytes as text

* `decode?` reads bytes that are valid UTF-8 throughout.
* `lossy` reads any bytes: each longest piece that begins a character but does not go on as one, and
  each byte that begins none, becomes U+FFFD.
-/

namespace ScriptLink.Text.Utf8

/-- The string that the bytes encode, if they are valid. -/
def decode? (bytes : List UInt8) : Option String :=
  String.fromUTF8? ⟨bytes.toArray⟩

def encode (s : String) : List UInt8 := s.toUTF8.toList

/-- What a first byte promises: how many bytes follow, the bounds of the first of them, and the bits
of its own. -/
structure Lead where
  following : Nat
  low : UInt8
  high : UInt8
  bits : Nat

/-- What a byte promises as the first of a character of several bytes. The bounds exclude overlong
forms, halves of surrogate pairs and numbers beyond U+10FFFF. -/
def lead? (b : UInt8) : Option Lead :=
  if 0xC2 ≤ b && b ≤ 0xDF then some ⟨1, 0x80, 0xBF, b.toNat - 0xC0⟩
  else if b == 0xE0 then some ⟨2, 0xA0, 0xBF, 0⟩
  else if b == 0xED then some ⟨2, 0x80, 0x9F, 0xD⟩
  else if 0xE1 ≤ b && b ≤ 0xEF then some ⟨2, 0x80, 0xBF, b.toNat - 0xE0⟩
  else if b == 0xF0 then some ⟨3, 0x90, 0xBF, 0⟩
  else if 0xF1 ≤ b && b ≤ 0xF3 then some ⟨3, 0x80, 0xBF, b.toNat - 0xF0⟩
  else if b == 0xF4 then some ⟨3, 0x80, 0x8F, 4⟩
  else none

/-- Reads up to `following` later bytes, the first of them within bounds: the number so far and the
bytes left, or only the bytes left where a byte does not suit. -/
def later : Nat → UInt8 → UInt8 → Nat → List UInt8 → Option Nat × List UInt8
  | 0, _, _, n, bytes => (some n, bytes)
  | _ + 1, _, _, _, [] => (none, [])
  | following + 1, low, high, n, b :: bytes =>
    if low ≤ b && b ≤ high then later following 0x80 0xBF (n * 64 + (b.toNat - 0x80)) bytes
    else (none, b :: bytes)

theorem length_later (k : Nat) (low high : UInt8) (n : Nat) (bytes : List UInt8) :
    (later k low high n bytes).2.length ≤ bytes.length := by
  induction bytes generalizing k low high n with
  | nil => cases k <;> simp [later]
  | cons b bytes ih =>
    cases k with
    | zero => simp [later]
    | succ k =>
      simp only [later]
      split
      · exact Nat.le_succ_of_le (ih ..)
      · simp

/-- What stands for bytes that belong to no character. -/
def replacement : Char := '\uFFFD'

/-- The characters that bytes encode, with the replacement for what is none. -/
def lossyChars : List UInt8 → List Char
  | [] => []
  | b :: bytes =>
    if b < 0x80 then Char.ofNat b.toNat :: lossyChars bytes
    else
      match lead? b with
      | none => replacement :: lossyChars bytes
      | some l =>
        let r := later l.following l.low l.high l.bits bytes
        (r.1.map Char.ofNat).getD replacement :: lossyChars r.2
termination_by bytes => bytes.length
decreasing_by
  · simp
  · simp
  · exact Nat.lt_succ_of_le (length_later ..)

/-- The text of any bytes. -/
def lossy (bytes : List UInt8) : String := String.ofList (lossyChars bytes)

end ScriptLink.Text.Utf8
