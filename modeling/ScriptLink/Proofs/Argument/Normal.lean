import ScriptLink.Proofs.Argument.Roles

/-!
# ScriptLink.Proofs.Argument.Normal — a split again

* `roles_settings`: the flags and their values keep their roles without the other arguments between them.
* `Dangling` says that a command line ends with a flag whose value is missing.
* `split_normal`: a split finds nothing to part in its first side, and parts both sides with the terminator between
  them as before, unless the terminator becomes the value of a flag that had none.
-/

namespace ScriptLink.Argument

open Phase (roles)

/-- The command line ends with a flag that awaits its value. -/
def Dangling (command : List Argument) : Prop :=
  ∃ program xs, command = program :: xs.map Prod.fst ∧ Follows [] xs ∧ Awaited xs

/-- The flags and their values have the same roles by themselves. -/
theorem roles_settings (p : Phase) (args : List Argument) :
    p.roles (settings (p.roles args)) = (p.roles args).filter fun x => x.2.isSetting := by
  induction args generalizing p with
  | nil => rfl
  | cons a rest ih =>
    have hnext := p.next_eq a
    rw [roles, settings_cons, List.filter_cons]
    cases hr : p.role a with
    | flag | value => simp only [Role.isSetting, if_true, roles, ih, hr]
    | other =>
      rw [hr] at hnext
      simp only [Role.isSetting, Bool.false_eq_true, if_false, hnext, ih]
    | terminator =>
      -- no argument after the terminator is a setting
      have hfilter : (roles .closed rest).filter (fun x => x.2.isSetting) = [] := by
        simp [Phase.roles_closed, Role.isSetting]
      rw [hr] at hnext
      rw [hnext, settings_closed, hfilter]
      rfl

/-- Settings are all settings, and nothing ends them. -/
theorem sides_settings (args : List Argument) :
    settings (roles .sorting (settings (roles .sorting args))) = settings (roles .sorting args) ∧
    others (roles .sorting (settings (roles .sorting args))) = [] ∧
    ¬Ended (roles .sorting (settings (roles .sorting args))) := by
  rw [roles_settings]
  refine ⟨?_, ?_, ?_⟩
  · rw [settings, List.filter_filter]
    simp only [Bool.and_self]
    rfl
  · rw [others, List.filter_filter, List.map_eq_nil_iff, List.filter_eq_nil_iff]
    rintro ⟨a, r⟩ -
    cases r <;> simp [Role.isSetting]
  · rintro ⟨a, ha⟩
    exact Bool.false_ne_true (List.mem_filter.mp ha).2

theorem dangling_iff (program : Argument) (args : List Argument) :
    Dangling (program :: args) ↔ Phase.sorting.after args = .awaiting := by
  have hafter := Phase.after_roles Phase.after_nil args
  rw [hafter.awaiting]
  constructor
  · rintro ⟨_, xs, he, hxs, hawaited⟩
    obtain ⟨-, rfl⟩ := List.cons.inj he
    rwa [← hxs.eq_roles Phase.after_nil]
  · intro h
    exact ⟨program, roles .sorting args, by rw [Phase.map_roles], Phase.follows_roles Phase.after_nil args, h⟩

/-- **A split is in normal form**: the first side of a split is parted into itself and nothing. Behind a terminator
after it, the second side is parted from it again, unless the first side ends with a flag that awaits its value. -/
theorem split_normal (program : Argument) (args : List Argument) :
    let (flags, texts) := split (program :: args)
    split flags = (flags, []) ∧
      (split (flags ++ terminator :: texts.map .text) = (flags, texts) ↔ ¬Dangling flags) := by
  rw [split_cons]
  obtain ⟨hsettings, hothers, hended⟩ := sides_settings args
  generalize settings (roles .sorting args) = flags at *
  generalize others (roles .sorting args) = texts
  have htexts : (texts.map Argument.text).map lossy = texts := by simp [Function.comp_def, lossy]
  refine ⟨by rw [split_cons, hsettings, hothers], ?_⟩
  rw [List.cons_append, split_cons, Phase.roles_append, settings_append, others_append, hsettings, hothers,
    dangling_iff]
  have hterminates : terminator.terminates = true := rfl
  have hclosed := (Phase.after_roles Phase.after_nil flags).closed
  cases hp : Phase.sorting.after flags with
  | sorting =>
    rw [Phase.roles_terminator _ hterminates, settings_cons, others_cons, settings_closed, others_closed, htexts]
    simp [Role.isSetting]
  | awaiting =>
    rw [roles, settings_cons]
    simp [Phase.role, Role.isSetting]
  | closed => exact absurd (hclosed.mp hp) hended

/-- With no value after it, a flag takes the terminator for its value. -/
example : split ([.text "duplexd", .text "--target"] ++ terminator :: [.text "x"]) =
    ([.text "duplexd", .text "--target", .text "--"], ["x"]) := by decide

end ScriptLink.Argument
