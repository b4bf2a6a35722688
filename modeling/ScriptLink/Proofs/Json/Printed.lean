import ScriptLink.Frame.Basic
import ScriptLink.Proofs.Json.RoundTrip

/-!
# ScriptLink.Proofs.Json.Printed — JSON text has no control characters

* `Printed` is a text without characters below U+0020.
* `printed_escape`: no character of a string is written as one, also not a key of an object.
* `printed_chars`: so the text of a value is printed, and with it the line of a frame (`printed_encode`).
-/

namespace ScriptLink

/-- There is no control character in the text. -/
def Printed (cs : List Char) : Prop := ∀ c ∈ cs, 0x20 ≤ c.toNat

instance (cs : List Char) : Decidable (Printed cs) := List.decidableBAll (fun c : Char => 0x20 ≤ c.toNat) cs

@[simp] theorem printed_nil : Printed [] := nofun

@[simp] theorem printed_cons {c : Char} {cs : List Char} : Printed (c :: cs) ↔ 0x20 ≤ c.toNat ∧ Printed cs :=
  List.forall_mem_cons

@[simp] theorem printed_append {cs ds : List Char} : Printed (cs ++ ds) ↔ Printed cs ∧ Printed ds :=
  List.forall_mem_append

theorem Printed.not_mem {cs : List Char} (h : Printed cs) {c : Char} (hc : c.toNat < 0x20) : c ∉ cs :=
  fun hm => Nat.not_le_of_lt hc (h c hm)

/-! ## Numbers -/

namespace Number

theorem printed_of_digits {cs : List Char} (h : ∀ c ∈ cs, c.isDigit = true) : Printed cs := by
  intro c hc
  have hd := h c hc
  simp only [Char.isDigit, Bool.and_eq_true, decide_eq_true_eq] at hd
  have hlow : '0'.toNat ≤ c.toNat := UInt32.le_iff_toNat_le.mp hd.1
  exact Nat.le_trans (by decide) hlow

theorem printed_digits (n : Nat) : Printed (digits n) := printed_of_digits fun _ => isDigit_of_mem_digits

theorem printed_chars (n : Number) : Printed n.chars := by
  have hvalid := n.valid_literal
  rw [← chars_literal, Literal.chars, Literal.magnitudeChars]
  simp only [printed_append]
  refine ⟨?_, printed_of_digits hvalid.whole_digits, ?_, ?_⟩
  · unfold Literal.signChars
    split <;> decide
  · have hfrac := printed_of_digits hvalid.frac_digits
    unfold Literal.fractionChars
    split
    · exact printed_nil
    · rename_i hd
      rw [hd] at hfrac
      exact printed_cons.mpr ⟨by decide, hfrac⟩
  · unfold Literal.exponentChars
    split
    · exact printed_nil
    · refine printed_cons.mpr ⟨by decide, printed_cons.mpr ⟨?_, printed_digits _⟩⟩
      split <;> decide

end Number

namespace Value

/-! ## Strings -/

/-- A control character is escaped. -/
theorem printed_escape (c : Char) : Printed (escape c) := by
  by_cases hc : 0x20 ≤ c.toNat
  · unfold escape
    rw [if_pos hc]
    split_ifs <;> simp [hc]
  · have hcontrol : ∀ n < 0x20, Printed (escape (Char.ofNat n)) := by decide
    rw [← Char.ofNat_toNat c]
    exact hcontrol _ (by omega)

theorem printed_quoted (s : String) : Printed (quoted s) := by
  have hs : Printed (s.toList.flatMap escape) := by
    intro d hd
    obtain ⟨c, -, hdc⟩ := List.mem_flatMap.mp hd
    exact printed_escape c d hdc
  simp [quoted, hs]

/-! ## Values -/

mutual

/-- The text of a value has no control character. -/
theorem printed_chars : ∀ v : Value, Printed v.chars
  | .null => by decide
  | .bool true => by decide
  | .bool false => by decide
  | .num n => n.printed_chars
  | .str s => printed_quoted s
  | .arr [] => by decide
  | .arr (v :: rest) => by simp [chars, printed_chars v, printed_itemChars rest]
  | .obj [] => by decide
  | .obj ((k, v) :: rest) => by simp [chars, printed_quoted k, printed_chars v, printed_memberChars rest]

theorem printed_itemChars : ∀ items : List Value, Printed (itemChars items)
  | [] => by decide
  | v :: rest => by simp [itemChars, printed_chars v, printed_itemChars rest]

theorem printed_memberChars : ∀ members : List (String × Value), Printed (memberChars members)
  | [] => by decide
  | (k, v) :: rest => by simp [memberChars, printed_quoted k, printed_chars v, printed_memberChars rest]

end

end Value

/-- The line of a frame has no control character. -/
theorem Frame.printed_encode (f : Frame) : Printed f.encode.toList := by
  rw [encode, Value.text, String.toList_ofList]
  exact Value.printed_chars _

end ScriptLink
