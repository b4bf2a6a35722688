import Mathlib.Data.List.Induction

/-!
# ScriptLink.Proofs.Record — a history and what came of it

A system that answers what is done with it, and is another one afterwards, is a function from states and acts to
answers and states.

* `Record.after` is the state after a history of acts, and `Record.records` are the acts with their answers.
* `Record.invariant`: what holds at the beginning and is kept by each act, of the state and the records together,
  holds after every history.
-/

namespace ScriptLink

/-- What was done, and what came of it. -/
structure Record (α β : Type) where
  act : α
  answer : β

namespace Record

variable {σ α β : Type} (step : σ → α → β × σ)

/-- The state after acts. -/
def after (s : σ) (acts : List α) : σ := acts.foldl (fun s a => (step s a).2) s

/-- Each act with its answer, oldest first. -/
def records (s : σ) : List α → List (Record α β)
  | [] => []
  | a :: rest => ⟨a, (step s a).1⟩ :: records (step s a).2 rest

theorem after_concat (s : σ) (acts : List α) (a : α) : after step s (acts ++ [a]) = (step (after step s acts) a).2 :=
  List.foldl_append

theorem records_concat (s : σ) (acts : List α) (a : α) :
    records step s (acts ++ [a]) = records step s acts ++ [⟨a, (step (after step s acts) a).1⟩] := by
  induction acts generalizing s with
  | nil => rfl
  | cons m rest ih =>
    rw [List.cons_append, records, records, ih, List.cons_append]
    rfl

/-- What one act keeps, a history keeps. -/
theorem invariant {inv : σ → List (Record α β) → Prop} {s : σ} (hstart : inv s [])
    (hstep : ∀ s t a, inv s t → inv (step s a).2 (t ++ [⟨a, (step s a).1⟩])) (acts : List α) :
    inv (after step s acts) (records step s acts) := by
  induction acts using List.reverseRecOn with
  | nil => exact hstart
  | append_singleton acts a ih =>
    rw [after_concat, records_concat]
    exact hstep _ _ a ih

end Record

end ScriptLink
