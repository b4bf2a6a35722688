import ScriptLink.Module.Handler

/-!
# ScriptLink.Module.Registry — modules by name

A registry holds modules under their specifiers, each specifier once.

* `Registry.register` refuses a name that is taken. `registerAll_of_nodup`: modules under names of their own are
  all registered.
* `Registry.find` finds a module by its name, and only by it; `Registry.importer` does so at any time.
-/

namespace ScriptLink

/-- Modules under their specifiers. -/
structure Registry (α : Type) where
  entries : List (String × α)
  /-- No specifier is taken twice. -/
  nodup : (entries.map Prod.fst).Nodup

namespace Registry

theorem nodup_keys_nil : (([] : List (String × α)).map Prod.fst).Nodup := List.Pairwise.nil

def empty : Registry α := ⟨[], nodup_keys_nil⟩

instance : Inhabited (Registry α) := ⟨empty⟩

/-- The module under a specifier. -/
def get? (specifier : String) (r : Registry α) : Option α := r.entries.lookup specifier

def contains (specifier : String) (r : Registry α) : Bool :=
  (r.entries.map Prod.fst).contains specifier

def size (r : Registry α) : Nat := r.entries.length

/-- The specifiers in increasing order. -/
def specifiers (r : Registry α) : List String :=
  (r.entries.map Prod.fst).mergeSort fun a b => decide (a ≤ b)

/-- The registry with one more module, unless its specifier is taken. -/
def register (specifier : String) (x : α) (r : Registry α) : Except LoadFault (Registry α) :=
  if h : specifier ∈ r.entries.map Prod.fst then .error (.duplicate specifier)
  else .ok
    { entries := r.entries ++ [(specifier, x)]
      nodup := by
        rw [List.map_append, List.nodup_append]
        refine ⟨r.nodup, by simp, ?_⟩
        intro a ha b hb hab
        simp only [List.map_cons, List.map_nil, List.mem_singleton] at hb
        exact h (hb ▸ hab ▸ ha) }

/-- Registers modules in turn, up to the first whose specifier is taken. -/
def registerAll (xs : List (String × α)) (r : Registry α) : Except LoadFault (Registry α) :=
  xs.foldlM (fun r x => r.register x.1 x.2) r

/-- Modules under names of their own are all registered, one behind the other. -/
theorem registerAll_of_nodup {xs : List (String × α)} {r : Registry α}
    (h : ((r.entries ++ xs).map Prod.fst).Nodup) : r.registerAll xs = .ok ⟨r.entries ++ xs, h⟩ := by
  induction xs generalizing r with
  | nil =>
    show Except.ok r = _
    congr 1
    simp
  | cons x rest ih =>
    have hfresh : x.1 ∉ r.entries.map Prod.fst := by
      rw [List.map_append, List.map_cons] at h
      exact fun hmem => (List.nodup_append.mp h).2.2 _ hmem _ List.mem_cons_self rfl
    unfold registerAll
    rw [List.foldlM_cons, register, dif_neg hfresh]
    show registerAll rest _ = _
    rw [ih (by simpa using h)]
    simp

/-- The module under a specifier, or the failure of its import. -/
def find (specifier : String) (r : Registry (ScriptModule σ)) : Except ImportFault (ScriptModule σ) :=
  match r.get? specifier with
  | some m => .ok m
  | none => .error (.notFound specifier)

/-- The registry as an importer, which remembers nothing. -/
def importer (r : Registry (ScriptModule σ)) : Importer σ := .ofFind fun specifier => r.find specifier

end Registry

end ScriptLink
