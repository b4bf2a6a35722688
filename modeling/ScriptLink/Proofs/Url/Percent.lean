import ScriptLink.Proofs.Text.Utf8
import ScriptLink.Url.File

/-!
# ScriptLink.Proofs.Url.Percent — what an encoded text consists of

* `mem_encodeBy`: its characters are those that the set admits, and percent signs and digits.
* `length_le_encodeBy` and `encodeBy_eq_self`: it is not shorter than the text, and the text itself if the set
  admits all of that.
* `isSingleDot_component` and `isDoubleDot_component`: a component that is encoded is a dot segment only if it was
  one before, for the percent signs in it stand for themselves.
-/

namespace ScriptLink.Url

/-- What the bytes of a character are written with. -/
def marks : List Char := "%0123456789ABCDEF".toList

theorem hexDigit_mem_marks : ∀ n < 16, hexDigit n ∈ marks := by decide

/-- No set encodes a mark but that of a component, and none of the marks ends a segment. -/
theorem plain_of_mem_marks {c : Char} (h : c ∈ marks) :
    (pathSet c = false ∧ c ≠ '/' ∧ c ≠ '\\') ∧ querySet c = false ∧ fragmentSet c = false := by
  -- The marks are gone through one by one: to decide the statement as it stands may go through all characters.
  have hall : marks.all fun c =>
      !pathSet c && c != '/' && c != '\\' && !querySet c && !fragmentSet c := by decide
  simpa [and_assoc] using List.all_eq_true.mp hall c h

theorem mem_percentChar {c x : Char} (h : x ∈ percentChar c) : x ∈ marks := by
  obtain ⟨b, -, hx⟩ := List.mem_flatMap.mp h
  have hb := b.toNat_lt
  simp only [percentByte, List.mem_cons, List.not_mem_nil, or_false] at hx
  rcases hx with rfl | rfl | rfl
  · decide
  · exact hexDigit_mem_marks _ (by omega)
  · exact hexDigit_mem_marks _ (by omega)

/-! ## Encoding by a set -/

section

variable {set : Char → Bool}

theorem encodeBy_cons_of_set {c : Char} (h : set c = true) (cs : List Char) :
    encodeBy set (c :: cs) = percentChar c ++ encodeBy set cs := by
  rw [encodeBy, List.flatMap_cons, if_pos h]
  rfl

theorem encodeBy_cons_of_not_set {c : Char} (h : set c = false) (cs : List Char) :
    encodeBy set (c :: cs) = c :: encodeBy set cs := by
  rw [encodeBy, List.flatMap_cons, if_neg (by simp [h])]
  rfl

theorem mem_encodeBy {cs : List Char} {x : Char} (h : x ∈ encodeBy set cs) :
    x ∈ marks ∨ x ∈ cs ∧ set x = false := by
  obtain ⟨c, hc, hx⟩ := List.mem_flatMap.mp h
  cases hs : set c with
  | true =>
    rw [if_pos hs] at hx
    exact .inl (mem_percentChar hx)
  | false =>
    rw [if_neg (by simp [hs]), List.mem_singleton] at hx
    subst hx
    exact .inr ⟨hc, hs⟩

/-- A set that admits the marks admits all of a text that is encoded by it. -/
theorem set_of_mem_encodeBy (hmarks : ∀ x ∈ marks, set x = false) {cs : List Char} {x : Char}
    (h : x ∈ encodeBy set cs) : set x = false :=
  (mem_encodeBy h).elim (hmarks x) And.right

theorem encodeBy_eq_self {cs : List Char} (h : ∀ c ∈ cs, set c = false) : encodeBy set cs = cs := by
  induction cs with
  | nil => rfl
  | cons c cs ih =>
    rw [encodeBy_cons_of_not_set (h c List.mem_cons_self), ih fun d hd => h d (List.mem_cons_of_mem c hd)]

theorem exists_percentChar (c : Char) : ∃ b more, b ∈ String.utf8EncodeChar c ∧
    percentChar c = percentByte b ++ more := by
  cases hb : String.utf8EncodeChar c with
  | nil => exact absurd hb String.utf8EncodeChar_ne_nil
  | cons b bs => exact ⟨b, bs.flatMap percentByte, List.mem_cons_self, by rw [percentChar, hb, List.flatMap_cons]⟩

theorem length_le_encodeBy (cs : List Char) : cs.length ≤ (encodeBy set cs).length := by
  induction cs with
  | nil => exact Nat.zero_le _
  | cons c cs ih =>
    cases hs : set c with
    | true =>
      obtain ⟨b, more, -, hp⟩ := exists_percentChar c
      rw [encodeBy_cons_of_set hs, hp]
      simp only [List.length_append, List.length_cons, percentByte, List.length_nil]
      omega
    | false =>
      rw [encodeBy_cons_of_not_set hs, List.length_cons, List.length_cons]
      omega

end

/-! ## Dots -/

/-- A character before the small letters is in lower case as it stands. -/
theorem eq_of_toLower {c d : Char} (hd : d.toNat < 'a'.toNat) (h : c.toLower = d) : c = d := by
  unfold Char.toLower at h
  split at h
  case isTrue hc =>
    have hv := congrArg (fun d : Char => d.val.toNat) h
    have hlow := UInt32.le_iff_toNat_le.mp hc.1
    have hhigh := UInt32.le_iff_toNat_le.mp hc.2
    simp only [UInt32.toNat_add] at hv
    have hA : 'A'.val.toNat = 65 := rfl
    have hZ : 'Z'.val.toNat = 90 := rfl
    have hs : ('a'.val - 'A'.val).toNat = 32 := rfl
    have ha : d.val.toNat < 97 := hd
    omega
  case isFalse => exact h

/-- The digits of an encoded dot are those of no other byte. -/
theorem digits_of_dot : ∀ m < 16, ∀ n < 16, (hexDigit m).toLower = '2' → (hexDigit n).toLower = 'e' →
    m = 2 ∧ n = 14 := by
  decide

theorem isSingleDot_iff (cs : List Char) : FileUrl.isSingleDot cs = true ↔
    cs.map Char.toLower = ['.'] ∨ cs.map Char.toLower = ['%', '2', 'e'] := by
  rw [FileUrl.isSingleDot, List.contains_iff_mem, List.mem_cons, List.mem_singleton,
    show "." = String.ofList ['.'] from rfl, show "%2e" = String.ofList ['%', '2', 'e'] from rfl,
    String.ofList_inj, String.ofList_inj]

/-- A double-dot segment is one single dot after another, each of them encoded or not. -/
theorem isDoubleDot_append {cs : List Char} (h : FileUrl.isDoubleDot cs = true) :
    ∃ a b, cs = a ++ b ∧ FileUrl.isSingleDot a = true ∧ FileUrl.isSingleDot b = true := by
  have hcut {x y : List Char} (hx : x = ['.'] ∨ x = ['%', '2', 'e']) (hy : y = ['.'] ∨ y = ['%', '2', 'e'])
      (hcs : cs.map Char.toLower = x ++ y) :
      ∃ a b, cs = a ++ b ∧ FileUrl.isSingleDot a = true ∧ FileUrl.isSingleDot b = true := by
    obtain ⟨a, b, hab, ha, hb⟩ := List.map_eq_append_iff.mp hcs
    exact ⟨a, b, hab, (isSingleDot_iff a).mpr (by rwa [ha]), (isSingleDot_iff b).mpr (by rwa [hb])⟩
  have hdot (x : List Char) : String.ofList (cs.map Char.toLower) = String.ofList x → cs.map Char.toLower = x :=
    String.ofList_inj.mp
  simp only [FileUrl.isDoubleDot, List.contains_iff_mem, List.mem_cons, List.not_mem_nil, or_false] at h
  rcases h with h | h | h | h
  · exact hcut (.inl rfl) (.inl rfl) (hdot ['.', '.'] h)
  · exact hcut (.inl rfl) (.inr rfl) (hdot ['.', '%', '2', 'e'] h)
  · exact hcut (.inr rfl) (.inl rfl) (hdot ['%', '2', 'e', '.'] h)
  · exact hcut (.inr rfl) (.inr rfl) (hdot ['%', '2', 'e', '%', '2', 'e'] h)

/-- A single dot is written as it is or encoded. -/
theorem cases_of_single {cs : List Char} (h : FileUrl.isSingleDot cs = true) :
    cs = ['.'] ∨ ∃ e, cs = ['%', '2', e] ∧ e.toLower = 'e' := by
  rcases (isSingleDot_iff cs).mp h with h | h
  · obtain ⟨d, rfl, hd⟩ := List.map_eq_singleton_iff.mp h
    exact .inl (by rw [eq_of_toLower (by decide) hd])
  · obtain ⟨p, cs, rfl, hp, h⟩ := List.map_eq_cons_iff.mp h
    obtain ⟨t, cs, rfl, ht, h⟩ := List.map_eq_cons_iff.mp h
    obtain ⟨e, rfl, he⟩ := List.map_eq_singleton_iff.mp h
    exact .inr ⟨e, by rw [eq_of_toLower (by decide) hp, eq_of_toLower (by decide) ht], he⟩

/-- A component that begins with a dot when it is encoded began with one before: the percent signs of the component
itself are encoded, and those of other characters do not stand before the digits of a dot. -/
theorem component_of_single {cs dot rest : List Char} (h : encodeBy componentSet cs = dot ++ rest)
    (hdot : FileUrl.isSingleDot dot = true) : ∃ more, cs = '.' :: more ∧ rest = encodeBy componentSet more := by
  cases cs with
  | nil => rcases cases_of_single hdot with rfl | ⟨e, rfl, -⟩ <;> cases h
  | cons c cs =>
    cases hs : componentSet c with
    | false =>
      rw [encodeBy_cons_of_not_set hs] at h
      rcases cases_of_single hdot with rfl | ⟨e, rfl, -⟩
      · obtain ⟨rfl, hrest⟩ := List.cons.inj h
        exact ⟨cs, rfl, hrest.symm⟩
      · rw [(List.cons.inj h).1] at hs
        cases hs
    | true =>
      obtain ⟨b, more, hb, hp⟩ := exists_percentChar c
      rw [encodeBy_cons_of_set hs, hp, percentByte] at h
      rcases cases_of_single hdot with rfl | ⟨e, rfl, he⟩
      · cases (List.cons.inj h).1
      · obtain ⟨-, h⟩ := List.cons.inj h
        obtain ⟨hhigh, h⟩ := List.cons.inj h
        obtain ⟨hlow, -⟩ := List.cons.inj h
        have hlt := b.toNat_lt
        -- the digits are those of the byte of a dot, which is in no other character
        obtain ⟨hm, hn⟩ := digits_of_dot (b.toNat / 16) (by omega) (b.toNat % 16) (by omega) (by rw [hhigh]; rfl)
          (by rw [hlow]; exact he)
        have hbyte : b = Text.Utf8.byteOf '.' := UInt8.toNat_inj.mp (show b.toNat = 46 by omega)
        rw [(Text.Utf8.mem_bytes_iff (by decide) c).mp (hbyte ▸ hb)] at hs
        cases hs

theorem isSingleDot_component {cs : List Char} (h : FileUrl.isSingleDot (encodeBy componentSet cs) = true) :
    cs = ['.'] := by
  obtain ⟨more, rfl, hmore⟩ := component_of_single (List.append_nil _).symm h
  have hlen : more.length ≤ (encodeBy componentSet more).length := length_le_encodeBy more
  rw [← hmore] at hlen
  rw [List.eq_nil_of_length_eq_zero (Nat.le_zero.mp hlen)]

theorem isDoubleDot_component {cs : List Char} (h : FileUrl.isDoubleDot (encodeBy componentSet cs) = true) :
    cs = ['.', '.'] := by
  obtain ⟨a, b, hab, ha, hb⟩ := isDoubleDot_append h
  obtain ⟨more, rfl, hmore⟩ := component_of_single hab ha
  have hone : more = ['.'] := isSingleDot_component (by rw [← hmore]; exact hb)
  rw [hone]

end ScriptLink.Url
