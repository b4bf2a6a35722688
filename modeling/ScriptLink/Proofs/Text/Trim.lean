import Mathlib.Data.List.DropRight
import ScriptLink.Text.Blank

/-!
# ScriptLink.Proofs.Text.Trim — what is left of a text that is trimmed or split

* `exists_stripBy`: what is taken away stands in front and behind and is accepted throughout.
* `Free p cs`: the text neither begins nor ends with a character that `p` accepts. What is left is free of them
  (`free_stripBy`), and a text that is free of them stays as it is (`stripBy_eq_self_iff`).
* `trimmed?_eq_some_iff` says which texts are something trimmed; they stay so (`trim_of_trimmed?`).
* `split_intercalate`: texts without the separator are found again between separators.
-/

namespace ScriptLink.Text

/-! ## Stripping -/

section

variable {p : Char → Bool}

/-- What is stripped from the end ends before the last character that stays. -/
theorem stripEndBy_append_cons {c : Char} (hc : p c = false) (as bs : List Char) :
    stripEndBy p (as ++ c :: bs) = as ++ c :: stripEndBy p bs := by
  have hrest : (c :: as.reverse).dropWhile p = c :: as.reverse :=
    List.dropWhile_cons_of_neg (by simp [hc])
  unfold stripEndBy
  rw [List.reverse_append, List.reverse_cons, List.append_assoc, List.singleton_append,
    List.dropWhile_append]
  split
  · rename_i h
    rw [hrest, List.isEmpty_iff.mp h]
    simp
  · simp

theorem stripBy_eq (p : Char → Bool) (cs : List Char) : stripBy p cs = (cs.dropWhile p).rdropWhile p := rfl

theorem stripBy_append_cons {c : Char} (hc : p c = false) (as bs : List Char) :
    stripBy p (as ++ c :: bs) = as.dropWhile p ++ c :: stripEndBy p bs := by
  have hdrop : (as ++ c :: bs).dropWhile p = as.dropWhile p ++ c :: bs := by
    rw [List.dropWhile_append]
    split
    · rename_i h
      rw [List.isEmpty_iff.mp h, List.dropWhile_cons_of_neg (by simp [hc]), List.nil_append]
    · rfl
  rw [stripBy, hdrop, stripEndBy_append_cons hc]

/-- What is taken away stands in front and behind. -/
theorem exists_stripBy (p : Char → Bool) (cs : List Char) : ∃ front back, (∀ c ∈ front, p c = true) ∧
    (∀ c ∈ back, p c = true) ∧ cs = front ++ (stripBy p cs ++ back) := by
  refine ⟨cs.takeWhile p, (cs.dropWhile p).rtakeWhile p, fun c hc => List.mem_takeWhile_imp hc,
    fun c hc => List.mem_rtakeWhile_imp hc, ?_⟩
  rw [stripBy_eq, List.rdropWhile_append_rtakeWhile, List.takeWhile_append_dropWhile]

theorem mem_of_mem_stripBy {cs : List Char} {c : Char} (h : c ∈ stripBy p cs) : c ∈ cs := by
  obtain ⟨front, back, -, -, hcs⟩ := exists_stripBy p cs
  rw [hcs]
  exact List.mem_append_right _ (List.mem_append_left _ h)

/-- The text neither begins nor ends with a character that `p` accepts. -/
def Free (p : Char → Bool) (cs : List Char) : Prop :=
  (∀ c ∈ cs.head?, p c = false) ∧ ∀ c ∈ cs.getLast?, p c = false

theorem free_nil (p : Char → Bool) : Free p [] := ⟨nofun, nofun⟩

theorem free_stripBy (p : Char → Bool) (cs : List Char) : Free p (stripBy p cs) := by
  refine ⟨fun c hc => ?_, fun c hc => ?_⟩
  · have hhead := List.head?_dropWhile_not p cs
    obtain ⟨more, hmore⟩ := List.head?_eq_some_iff.mp hc
    obtain ⟨back, hback⟩ := List.rdropWhile_prefix p (cs.dropWhile p)
    rw [← hback, ← stripBy_eq, hmore] at hhead
    exact hhead
  · have hhead := List.head?_dropWhile_not p (cs.dropWhile p).reverse
    rw [stripBy, stripEndBy, List.getLast?_reverse] at hc
    rw [hc] at hhead
    exact hhead

theorem stripBy_eq_self_iff {cs : List Char} : stripBy p cs = cs ↔ Free p cs := by
  refine ⟨fun h => h ▸ free_stripBy p cs, fun ⟨hhead, hlast⟩ => ?_⟩
  have hfront : cs.dropWhile p = cs := by
    cases cs with
    | nil => rfl
    | cons c more => exact List.dropWhile_cons_of_neg (by simp [hhead c rfl])
  have hback : cs.reverse.dropWhile p = cs.reverse := by
    rw [List.getLast?_eq_head?_reverse] at hlast
    cases hr : cs.reverse with
    | nil => rfl
    | cons c more => exact List.dropWhile_cons_of_neg (by simp [hlast c (by rw [hr]; rfl)])
  rw [stripBy, hfront, stripEndBy, hback, List.reverse_reverse]

theorem stripBy_stripBy (p : Char → Bool) (cs : List Char) : stripBy p (stripBy p cs) = stripBy p cs :=
  stripBy_eq_self_iff.mpr (free_stripBy p cs)

end

/-! ## White space -/

@[simp] theorem toList_trim (s : String) : (trim s).toList = stripBy isBlank s.toList :=
  String.toList_ofList

@[simp] theorem trim_trim (s : String) : trim (trim s) = trim s :=
  String.toList_inj.mp (by simp [stripBy_stripBy])

theorem trim_eq_self_iff {s : String} : trim s = s ↔ Free isBlank s.toList := by
  rw [← stripBy_eq_self_iff, ← String.toList_inj, toList_trim]

theorem trimmed?_eq_some_iff {s t : String} : trimmed? s = some t ↔ t = trim s ∧ t ≠ "" := by
  unfold trimmed?
  split
  · rename_i h
    simp only [reduceCtorEq, false_iff]
    rintro ⟨rfl, hne⟩
    exact hne h
  · rename_i h
    rw [Option.some_inj]
    exact ⟨fun he => ⟨he.symm, he ▸ h⟩, fun he => he.1.symm⟩

/-- What was trimmed is trimmed. -/
theorem trim_of_trimmed? {s t : String} (h : trimmed? s = some t) : trim t = t := by
  rw [(trimmed?_eq_some_iff.mp h).1, trim_trim]

/-- A text that is trimmed and not empty is taken as it is. -/
theorem trimmed?_of_trim {t : String} (h : trim t = t) (hne : t ≠ "") : trimmed? t = some t :=
  trimmed?_eq_some_iff.mpr ⟨h.symm, hne⟩

/-! ## Splitting -/

/-- The pieces do not contain the separator. -/
theorem not_mem_of_mem_splitOn {sep : Char} {cs piece : List Char} (h : piece ∈ cs.splitOn sep) : sep ∉ piece := by
  induction cs generalizing piece with
  | nil =>
    rw [List.splitOn_nil, List.mem_singleton] at h
    rw [h]
    exact List.not_mem_nil
  | cons c cs ih =>
    obtain ⟨first, rest, hpieces⟩ := List.exists_cons_of_ne_nil (List.splitOn_ne_nil sep cs)
    rw [hpieces] at ih
    rw [List.splitOn_cons_eq_if_modifyHead, hpieces] at h
    split at h
    · rcases List.mem_cons.mp h with rfl | h
      · exact List.not_mem_nil
      · exact ih h
    · rename_i hc
      rcases List.mem_cons.mp h with rfl | h
      · rw [List.mem_cons]
        rintro (rfl | hmem)
        · exact hc (beq_self_eq_true _)
        · exact ih List.mem_cons_self hmem
      · exact ih (List.mem_cons_of_mem _ h)

theorem not_mem_of_mem_split {sep : Char} {s piece : String} (h : piece ∈ split sep s) : sep ∉ piece.toList := by
  obtain ⟨cs, hcs, rfl⟩ := List.mem_map.mp h
  rw [String.toList_ofList]
  exact not_mem_of_mem_splitOn hcs

/-- Texts without the separator are found again between separators. -/
theorem split_intercalate {sep : Char} {texts : List String} (h : ∀ s ∈ texts, sep ∉ s.toList) (hne : texts ≠ []) :
    split sep ((String.singleton sep).intercalate texts) = texts := by
  have hlists : ∀ cs ∈ texts.map String.toList, sep ∉ cs := List.forall_mem_map.mpr h
  unfold split
  rw [String.toList_intercalate, String.toList_singleton, List.splitOn_intercalate sep hlists (by simpa using hne),
    List.map_map]
  simp [Function.comp_def]

end ScriptLink.Text
