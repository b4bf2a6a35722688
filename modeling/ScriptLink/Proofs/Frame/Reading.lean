import ScriptLink.Proofs.Frame.Portable
import ScriptLink.Proofs.Json.Locality

/-!
# ScriptLink.Proofs.Frame.Reading — reading lines that are JSON

* `decode_of_ofText?`: a line that is JSON as it stands is decoded as its value, whether or not its end is
  still there.
* `decode_obj_of_sorted`: the text of an object with its keys in order is decoded as the object.
* `Value.nested n` is an array that nests `n + 1` deep; it is read up to the limit (`Value.ofText?_nested`).
-/

namespace ScriptLink

namespace Value

theorem sorted_of_get? {v w : Value} {key : String} (hs : v.Sorted) (h : v.get? key = some w) :
    w.Sorted := by
  cases v with
  | obj members =>
    obtain ⟨before, after, rfl, -⟩ := List.lookup_eq_some_iff.mp h
    exact sortedMembers_iff.mp hs.2 _ (List.mem_append_right _ List.mem_cons_self)
  | _ => cases h

/-- An empty array in so many others. -/
def nested : Nat → Value
  | 0 => .arr []
  | n + 1 => .arr [nested n]

theorem depth_nested (n : Nat) : (nested n).depth = n + 1 := by
  induction n with
  | zero => rfl
  | succ n ih => simp [nested, depth, depthOfItems, ih]

theorem exact_nested (n : Nat) : (nested n).Exact := by
  induction n with
  | zero => exact trivial
  | succ n ih => exact ⟨ih, trivial⟩

theorem sorted_nested (n : Nat) : (nested n).Sorted := by
  induction n with
  | zero => exact trivial
  | succ n ih => exact ⟨ih, trivial⟩

/-- Values nest as deep as the reader allows, and no deeper. -/
theorem ofText?_nested (n : Nat) :
    ofText? (nested n).text = if n < 127 then some (nested n) else none := by
  rw [ofText?_text, depth_nested, legible_of_exact (exact_nested n),
    canonical_of_sorted (sorted_nested n)]
  rfl

end Value

namespace Frame

/-- The end of a line is white space. -/
theorem ofText?_withoutEnd {line : String} {v : Value} (h : Value.ofText? line = some v) :
    Value.ofText? (withoutEnd line) = some v := by
  have hspace (c : Char) (hc : isLineEnd c = true) : Json.isSpace c = true := by
    simp only [isLineEnd, Bool.or_eq_true, beq_iff_eq] at hc
    rcases hc with rfl | rfl <;> decide
  unfold Value.ofText? Value.read at h ⊢
  split at h
  · rename_i w hw
    rw [withoutEnd, String.toList_ofList, Value.readChars_strip hspace hw]
    exact h
  · cases h

theorem decode_of_ofText? {line : String} {v : Value} (h : Value.ofText? line = some v) :
    decode line = ofValue v := by
  rw [decode, ofText?_withoutEnd h]

/-- The text of an object with its keys in order is decoded as the object. -/
theorem decode_obj_of_sorted {m : String × Value} {ms : List (String × Value)}
    (hd : (Value.obj (m :: ms)).depth ≤ 127) (he : (Value.obj (m :: ms)).Exact)
    (hs : (Value.obj (m :: ms)).Sorted) :
    decode (Value.obj (m :: ms)).text = ofValue (.obj (m :: ms)) :=
  decode_of_ofText? (Value.ofText?_of_sorted hd he hs)

end Frame

end ScriptLink
