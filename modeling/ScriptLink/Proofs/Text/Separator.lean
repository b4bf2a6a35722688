import Mathlib.Data.List.TakeWhile

/-!
# ScriptLink.Proofs.Text.Separator — before and after a separator

Lists are cut at the first of an element with `takeWhile (· != a)` and `dropWhile (· != a)`; these lemmas say what
that leaves where it is known whether the element is in the list, and where.
-/

namespace ScriptLink.Text

variable {α : Type} [BEq α] [LawfulBEq α] {a : α} {xs : List α}

theorem bne_of_not_mem (h : a ∉ xs) : ∀ b ∈ xs, (b != a) = true :=
  fun _ hb => bne_iff_ne.mpr fun he => h (he ▸ hb)

theorem takeWhile_of_not_mem (h : a ∉ xs) : xs.takeWhile (· != a) = xs :=
  List.takeWhile_eq_self_iff.mpr (bne_of_not_mem h)

theorem dropWhile_of_not_mem (h : a ∉ xs) : xs.dropWhile (· != a) = [] :=
  List.dropWhile_eq_nil_iff.mpr (bne_of_not_mem h)

theorem takeWhile_append_self (h : a ∉ xs) (ys : List α) : (xs ++ a :: ys).takeWhile (· != a) = xs := by
  rw [List.takeWhile_append_of_pos (bne_of_not_mem h), List.takeWhile_cons_of_neg (by simp), List.append_nil]

theorem dropWhile_append_self (h : a ∉ xs) (ys : List α) : (xs ++ a :: ys).dropWhile (· != a) = a :: ys := by
  rw [List.dropWhile_append_of_pos (bne_of_not_mem h), List.dropWhile_cons_of_neg (by simp)]

end ScriptLink.Text
