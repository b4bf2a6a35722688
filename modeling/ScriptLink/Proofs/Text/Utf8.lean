import ScriptLink.Text.Utf8

/-!
# ScriptLink.Proofs.Text.Utf8 — the bytes of a string

* `encode_eq`: the bytes of a string are those of its characters, in order; `decode?_eq_some_iff` has it that
  they are read back and that no other bytes are.
* `mem_bytes_iff`: a byte of an ASCII character stands for that character and in no other, so that a text
  can be cut at it (`mem_encode_iff`, `getLast?_encode_iff`).
-/

namespace ScriptLink.Text.Utf8

/-! ## Bytes of strings -/

theorem toList_loop (bytes : ByteArray) (i : Nat) (before : List UInt8) :
    ByteArray.toList.loop bytes i before = before.reverse ++ bytes.data.toList.drop i := by
  fun_induction ByteArray.toList.loop bytes i before with
  | case1 i before hi ih =>
    have hlt : i < bytes.data.toList.length := by simpa using hi
    have hget : bytes.get! i = bytes.data.toList[i] := by
      obtain ⟨data⟩ := bytes
      exact (getElem!_pos data i hi).trans (Array.getElem_toList hi).symm
    rw [ih, List.drop_eq_getElem_cons hlt, hget, List.reverse_cons, List.append_assoc]
    rfl
  | case2 i before hi =>
    have hle : bytes.data.toList.length ≤ i := by simpa using hi
    rw [List.drop_eq_nil_of_le hle, List.append_nil]

theorem toList_eq_toList_data (bytes : ByteArray) : bytes.toList = bytes.data.toList := by
  rw [ByteArray.toList, toList_loop]
  rfl

theorem encode_eq (s : String) : encode s = s.toList.flatMap String.utf8EncodeChar := by
  unfold encode
  rw [toList_eq_toList_data, String.toUTF8_eq_toByteArray, ← String.utf8Encode_toList,
    List.utf8Encode, List.toList_data_toByteArray]

theorem encode_append (s t : String) : encode (s ++ t) = encode s ++ encode t := by
  rw [encode_eq, encode_eq, encode_eq, String.toList_append, List.flatMap_append]

theorem decode?_encode (s : String) : decode? (encode s) = some s := by
  have hbytes : (⟨(encode s).toArray⟩ : ByteArray) = s.toByteArray := by
    unfold encode
    rw [toList_eq_toList_data, String.toUTF8_eq_toByteArray]
  unfold decode?
  rw [hbytes, String.fromUTF8?, dif_pos s.isValidUTF8]
  rfl

/-- Bytes are read as a string just if they are the bytes of that string. -/
theorem decode?_eq_some_iff {bytes : List UInt8} {s : String} : decode? bytes = some s ↔ bytes = encode s := by
  refine ⟨fun h => ?_, fun h => by rw [h, decode?_encode]⟩
  unfold decode? String.fromUTF8? at h
  split at h
  · obtain rfl := Option.some.inj h
    unfold encode
    rw [toList_eq_toList_data, String.toUTF8_eq_toByteArray]
    rfl
  · cases h

/-! ## ASCII -/

/-- The only byte of an ASCII character. -/
def byteOf (c : Char) : UInt8 := UInt8.ofNat c.toNat

theorem bytes_of_ascii {c : Char} (hc : c.toNat ≤ 127) : String.utf8EncodeChar c = [byteOf c] := by
  have hv : c.val.toNat ≤ 127 := hc
  rw [String.utf8EncodeChar, if_pos hv]
  rfl

/-- Every byte of any other character is beyond ASCII. -/
theorem le_of_mem_bytes {c : Char} (hc : ¬c.toNat ≤ 127) :
    ∀ b ∈ String.utf8EncodeChar c, 128 ≤ b.toNat := by
  have hv : ¬c.val.toNat ≤ 127 := hc
  rw [String.utf8EncodeChar, if_neg hv]
  -- characters of two, three and four bytes
  split
  · simp only [List.mem_cons, List.not_mem_nil, or_false, forall_eq_or_imp, forall_eq,
      UInt8.toNat_ofNat']
    omega
  · split <;> simp only [List.mem_cons, List.not_mem_nil, or_false, forall_eq_or_imp, forall_eq,
      UInt8.toNat_ofNat'] <;> omega

theorem byteOf_inj {a c : Char} (ha : a.toNat ≤ 127) (hc : c.toNat ≤ 127)
    (h : byteOf a = byteOf c) : a = c := by
  have h := congrArg UInt8.toNat h
  rw [byteOf, byteOf, UInt8.toNat_ofNat', UInt8.toNat_ofNat'] at h
  exact Char.toNat_inj.mp (by omega)

theorem toNat_byteOf {a : Char} (ha : a.toNat ≤ 127) : (byteOf a).toNat ≤ 127 := by
  rw [byteOf, UInt8.toNat_ofNat']
  omega

/-- The byte of an ASCII character stands for that character and is part of no other. -/
theorem mem_bytes_iff {a : Char} (ha : a.toNat ≤ 127) (c : Char) :
    byteOf a ∈ String.utf8EncodeChar c ↔ c = a := by
  by_cases hc : c.toNat ≤ 127
  · rw [bytes_of_ascii hc, List.mem_singleton]
    exact ⟨fun h => (byteOf_inj ha hc h).symm, fun h => by rw [h]⟩
  · have hne : c ≠ a := by
      rintro rfl
      exact hc ha
    refine ⟨fun h => ?_, fun h => absurd h hne⟩
    have hb := le_of_mem_bytes hc _ h
    have ha := toNat_byteOf ha
    omega

theorem mem_encode_iff {a : Char} (ha : a.toNat ≤ 127) (s : String) :
    byteOf a ∈ encode s ↔ a ∈ s.toList := by
  simp only [encode_eq, List.mem_flatMap, mem_bytes_iff ha]
  exact ⟨fun ⟨c, hc, he⟩ => he ▸ hc, fun h => ⟨a, h, rfl⟩⟩

theorem encode_ofList_concat {a : Char} (ha : a.toNat ≤ 127) (cs : List Char) :
    encode (String.ofList (cs ++ [a])) = encode (String.ofList cs) ++ [byteOf a] := by
  rw [String.ofList_append, encode_append, encode_eq (String.ofList [a]), String.toList_ofList,
    List.flatMap_singleton, bytes_of_ascii ha]

/-- A text ends with the byte of an ASCII character just if it ends with that character. -/
theorem getLast?_encode_iff {a : Char} (ha : a.toNat ≤ 127) (s : String) :
    (encode s).getLast? = some (byteOf a) ↔ s.toList.getLast? = some a := by
  rw [encode_eq]
  rcases List.eq_nil_or_concat s.toList with hs | ⟨cs, c, hs⟩
  · rw [hs]
    simp
  · rw [hs, List.concat_eq_append, List.flatMap_append, List.flatMap_singleton,
      List.getLast?_append, List.getLast?_concat, Option.some_inj]
    constructor
    · intro h
      cases hl : (String.utf8EncodeChar c).getLast? with
      | none => exact absurd (List.getLast?_eq_none_iff.mp hl) String.utf8EncodeChar_ne_nil
      | some b =>
        rw [hl] at h
        obtain rfl : b = byteOf a := Option.some.inj h
        exact (mem_bytes_iff ha c).mp (List.mem_of_getLast? hl)
    · rintro rfl
      rw [bytes_of_ascii ha]
      rfl

end ScriptLink.Text.Utf8
