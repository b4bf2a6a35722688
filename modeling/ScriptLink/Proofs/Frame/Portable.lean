import ScriptLink.Proofs.Frame.Fields
import ScriptLink.Proofs.Json.Reading

/-!
# ScriptLink.Proofs.Frame.Portable — frames that survive their line

* `Value.Portable`: a value nests at most 126 deep, one less than a line may, and its numbers are reread
  as themselves.
* `decode_encode_of_portable`: a frame of such values is decoded as itself, settled and canonical.
* `portable_decode`: a frame that was decoded consists of such values, so what is passed on of it
  survives one more line.
-/

namespace ScriptLink

namespace Value

/-- A frame may carry the value: it nests at most 126 deep and its numbers are reread as themselves. -/
def Portable (v : Value) : Prop := v.depth ≤ 126 ∧ v.Exact

@[simp] theorem portable_null : null.Portable := ⟨Nat.zero_le _, trivial⟩

@[simp] theorem portable_bool (b : Bool) : (bool b).Portable := ⟨Nat.zero_le _, trivial⟩

@[simp] theorem portable_str (s : String) : (str s).Portable := ⟨Nat.zero_le _, trivial⟩

@[simp] theorem portable_word (n : UInt64) : (ofNat n.toNat).Portable := by
  have h := n.toNat_lt
  refine ⟨Nat.zero_le _, Number.reread_int ?_⟩
  unfold Number.Fits
  omega

@[simp] theorem portable_strings (texts : List String) : (strings texts).Portable := by
  have hv : ∀ v ∈ texts.map str, v.depth = 0 ∧ v.Exact := by
    intro v hv
    obtain ⟨s, -, rfl⟩ := List.mem_map.mp hv
    exact ⟨rfl, trivial⟩
  refine ⟨?_, exactItems_iff.mpr fun v h => (hv v h).2⟩
  show depthOfItems (texts.map str) + 1 ≤ 126
  have := depthOfItems_le (d := 0) fun v h => (hv v h).1.le
  omega

theorem portable_getD {v : Option Value} (h : ∀ w ∈ v, w.Portable) : (v.getD null).Portable := by
  cases v with
  | none => exact portable_null
  | some w => exact h w rfl

/-- An object may nest one deeper than its members. -/
theorem portable_object {ms : List (String × Value)} (h : ∀ m ∈ ms, m.2.depth ≤ 125 ∧ m.2.Exact) :
    (object ms).Portable := by
  cases ho : object ms with
  | obj members =>
    have hm : ∀ m ∈ members, m.2.depth ≤ 125 ∧ m.2.Exact := fun m hm => h m (mem_object ho hm)
    refine ⟨?_, exactMembers_iff.mpr fun m hmem => (hm m hmem).2⟩
    exact Nat.succ_le_succ (depthOfMembers_le fun m hmem => (hm m hmem).1)
  | _ => cases ho

/-- What an object on a line has in it is portable. -/
theorem portable_of_get? {v w : Value} {key : String} (hd : v.depth ≤ 127) (he : v.Exact)
    (h : v.get? key = some w) : w.Portable := by
  cases v with
  | obj members =>
    obtain ⟨before, after, rfl, -⟩ := List.lookup_eq_some_iff.mp h
    have hm : (key, w) ∈ before ++ (key, w) :: after :=
      List.mem_append_right _ List.mem_cons_self
    have hlt : w.depth < 127 := (depth_le_of_mem hm).trans_le hd
    exact ⟨Nat.le_of_lt_succ hlt, exactMembers_iff.mp he _ hm⟩
  | _ => cases h

end Value

namespace Frame

/-- Every value in a frame is portable. -/
def Portable (f : Frame) : Prop := ∀ m ∈ f.body, m.2.Portable

/-! ## Writing portable frames -/

theorem decode_encode_of_portable {f : Frame} (h : f.kind ≠ .text) (hp : f.Portable) :
    decode f.encode = f.canonical.settled := by
  have hm : ∀ m ∈ f.members, m.2.Portable := by
    rw [members]
    exact List.forall_mem_cons.mpr ⟨Value.portable_str _, hp⟩
  have hd : Value.depthOfMembers f.members ≤ 126 := Value.depthOfMembers_le fun m h => (hm m h).1
  exact decode_encode_of_legible h (Nat.succ_le_succ hd)
    fun m h => Value.legible_of_exact (hm m h).2

theorem kind_mapValues (free : Value → Value) (optional : Option Value → Option Value) (f : Frame) :
    (f.mapValues free optional).kind = f.kind := by
  cases f <;> rfl

theorem kind_decode_of_portable {f : Frame} (h : f.kind ≠ .text) (hp : f.Portable) :
    (decode f.encode).kind = f.kind := by
  rw [decode_encode_of_portable h hp]
  unfold settled canonical
  rw [kind_mapValues, kind_mapValues]

theorem decode_shutdownAck (reason : String) :
    decode (shutdownAck reason).encode = .shutdownAck reason :=
  decode_encode_of_portable Kind.noConfusion (by simp [Portable, body])

theorem decode_shutdownFor (reason : String) :
    decode (shutdownFor reason).encode = shutdownFor reason :=
  decode_encode_of_portable Kind.noConfusion (by simp [Portable, shutdownFor, body, omitted])

/-! ## Reading portable frames -/

section

variable {v : Value} (hd : v.depth ≤ 127) (he : v.Exact)
include hd he

/-- What is read from an object is portable, whatever its kind. -/
theorem portable_ofValue : (ofValue v).Portable :=
  body_ofValue (Value.portable_of_get? hd he) Value.portable_null (Value.portable_str "")
    (Value.portable_bool false) (Value.portable_strings [])

end

/-- Whatever is on a line, the frame on it can be written again. -/
theorem portable_decode (line : String) : (decode line).Portable := by
  unfold decode
  split
  · simp [Portable, body]
  · rename_i v hv
    obtain ⟨hd, he⟩ := Value.ofText?_exact hv
    exact portable_ofValue hd he

end Frame

end ScriptLink
