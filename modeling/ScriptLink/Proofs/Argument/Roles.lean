import ScriptLink.Argument.Split
import ScriptLink.Proofs.Text.Separator

/-!
# ScriptLink.Proofs.Argument.Roles — what each argument is there for

* `Argument.Names` and `Argument.Awaits` say which flag an argument names and whether it leaves the value of the
  flag to the argument after it; `isSome_flag?_iff` and `awaitsValue_iff` tie them to what a split looks at.
* `Fits before a r`: the argument `a` has the role `r` where it comes after the arguments `before`, each of which
  has its role already. `Follows` has it of all arguments of a list, which leaves no choice (`Follows.eq_roles`).
* A `Phase` is what a split remembers of the arguments before. `fits_role` and `after_next` are about one argument,
  `follows_roles` and `after_roles` about all of them, and `sort_eq` ties the roles to the split.
* `split_partitions`: a split puts the flags and their values on one side and all other arguments on the other, in
  order, and leaves out the terminator and nothing else.
-/

namespace ScriptLink

theorem Flag.equals_not_mem (f : Flag) : '=' ∉ f.name.toList := by cases f <;> decide

namespace Argument

/-! ## Flags -/

/-- The argument is the name of the flag, or that name with a value attached to it. -/
def Names (a : Argument) (f : Flag) : Prop := a.lossy = f.name ∨ ∃ value, a.lossy = f.name ++ "=" ++ value

/-- The argument is the name of a flag that takes a value, and no more than that. -/
def Awaits (a : Argument) : Prop := ∃ f : Flag, f ≠ .traceFrames ∧ a.lossy = f.name

theorem parts_of_not_mem {s : String} (h : '=' ∉ s.toList) : parts s = (s, none) := by
  simp only [parts, Text.takeWhile_of_not_mem h, Text.dropWhile_of_not_mem h, String.ofList_toList]

theorem parts_attached {name : String} (h : '=' ∉ name.toList) (value : String) :
    parts (name ++ "=" ++ value) = (name, some value) := by
  have hs : (name ++ "=" ++ value).toList = name.toList ++ '=' :: value.toList := by simp
  simp only [parts, hs, Text.takeWhile_append_self h, Text.dropWhile_append_self h, String.ofList_toList]

/-- A text is its parts, with an equals sign between them if there are two. -/
theorem parts_cases (s : String) :
    ((parts s).2 = none ∧ s = (parts s).1) ∨
      ∃ value, (parts s).2 = some value ∧ s = (parts s).1 ++ "=" ++ value := by
  by_cases hm : '=' ∈ s.toList
  · obtain ⟨name, value, hs, hname⟩ := List.eq_append_cons_of_mem hm
    obtain rfl : s = String.ofList name ++ "=" ++ String.ofList value := by
      rw [← String.toList_inj, hs]
      simp
    rw [parts_attached (by simpa using hname)]
    exact .inr ⟨_, rfl, rfl⟩
  · rw [parts_of_not_mem hm]
    exact .inl ⟨rfl, rfl⟩

theorem parts_of_names {a : Argument} {f : Flag} (h : a.Names f) : (parts a.lossy).1 = f.name := by
  rcases h with h | ⟨value, h⟩
  · rw [h, parts_of_not_mem f.equals_not_mem]
  · rw [h, parts_attached f.equals_not_mem]

theorem flag?_eq_some_iff {a : Argument} {f : Flag} : a.flag? = some f ↔ a.Names f := by
  refine ⟨fun h => ?_, fun h => ?_⟩
  · have hname : f.name = (parts a.lossy).1 := Flag.name_of_ofName? h
    rcases parts_cases a.lossy with ⟨-, hs⟩ | ⟨value, -, hs⟩
    · exact .inl (hs.trans hname.symm)
    · exact .inr ⟨value, hname ▸ hs⟩
  · rw [flag?, parts_of_names h, Flag.ofName?_name]

theorem isSome_flag?_iff {a : Argument} : a.flag?.isSome = true ↔ ∃ f, a.Names f := by
  simp only [Option.isSome_iff_exists, flag?_eq_some_iff]

theorem attached_eq_false_iff {a : Argument} {f : Flag} (h : a.Names f) : a.attached = false ↔ a.lossy = f.name := by
  rcases parts_cases a.lossy with ⟨hnone, hs⟩ | ⟨value, hsome, hs⟩
  · simp [attached, hnone, ← parts_of_names h, ← hs]
  · have hne : a.lossy ≠ f.name := by
      intro he
      have hparts := parts_of_not_mem f.equals_not_mem
      rw [← he, Prod.ext_iff, hsome] at hparts
      exact Option.some_ne_none value hparts.2
    simp [attached, hsome, hne]

theorem awaitsValue_iff {a : Argument} : a.awaitsValue = true ↔ a.Awaits := by
  refine ⟨fun h => ?_, fun ⟨f, hf, ha⟩ => ?_⟩
  · unfold awaitsValue at h
    split at h
    · rename_i f hf
      rw [Bool.and_eq_true, Bool.not_eq_true', Flag.takesValue, bne_iff_ne] at h
      exact ⟨f, h.1, (attached_eq_false_iff (flag?_eq_some_iff.mp hf)).mp h.2⟩
    · cases h
  · have hnames : a.Names f := .inl ha
    rw [awaitsValue, flag?_eq_some_iff.mpr hnames]
    simp [Flag.takesValue, hf, (attached_eq_false_iff hnames).mpr ha]

theorem terminates_iff {a : Argument} : a.terminates = true ↔ a.lossy = "--" := beq_iff_eq

theorem Awaits.names {a : Argument} (h : a.Awaits) : ∃ f, a.Names f := h.imp fun _ hf => .inl hf.2

/-- The terminator names no flag. -/
theorem ne_terminator_of_names {a : Argument} (h : ∃ f, a.Names f) : a.lossy ≠ "--" := by
  obtain ⟨f, hf⟩ := h
  intro ha
  have hparts := parts_of_names hf
  rw [ha] at hparts
  cases f <;> exact absurd hparts (by decide)

/-! ## Roles -/

/-- What an argument after the name of the program is there for. -/
inductive Role where
  | flag
  | value
  | terminator
  | other
  deriving DecidableEq, Repr

def Role.isSetting : Role → Bool
  | .flag | .value => true
  | _ => false

/-- The flags and their values, in order. -/
def settings (xs : List (Argument × Role)) : List Argument := (xs.filter fun x => x.2.isSetting).map Prod.fst

/-- The texts of the other arguments, in order. -/
def others (xs : List (Argument × Role)) : List String := (xs.filter fun x => x.2 = .other).map fun x => x.1.lossy

/-- The last argument is a flag, whose value is to come. -/
def Awaited (before : List (Argument × Role)) : Prop := ∃ earlier f, before = earlier ++ [(f, .flag)] ∧ f.Awaits

/-- The terminator was among the arguments. -/
def Ended (before : List (Argument × Role)) : Prop := ∃ a, (a, .terminator) ∈ before

/-- The role of an argument that comes after `before`. -/
structure Fits (before : List (Argument × Role)) (a : Argument) (r : Role) : Prop where
  value : r = .value ↔ Awaited before
  terminator : r = .terminator ↔ a.lossy = "--" ∧ ¬Awaited before ∧ ¬Ended before
  flag : r = .flag ↔ (∃ f, a.Names f) ∧ ¬Awaited before ∧ ¬Ended before

/-- Each argument has the role that it has after `before` and those between. -/
def Follows : List (Argument × Role) → List (Argument × Role) → Prop
  | _, [] => True
  | before, (a, r) :: rest => Fits before a r ∧ Follows (before ++ [(a, r)]) rest

variable {before : List (Argument × Role)} {a : Argument} {r : Role}

theorem Fits.unique {s : Role} (h : Fits before a r) (k : Fits before a s) : r = s := by
  have hvalue := h.value.trans k.value.symm
  have hterminator := h.terminator.trans k.terminator.symm
  have hflag := h.flag.trans k.flag.symm
  cases r <;> cases s <;> simp_all

theorem awaited_concat : Awaited (before ++ [(a, r)]) ↔ r = .flag ∧ a.Awaits := by
  constructor
  · rintro ⟨earlier, f, he, hf⟩
    obtain ⟨-, hx⟩ := List.append_inj' he rfl
    simp only [List.cons.injEq, Prod.mk.injEq, and_true] at hx
    obtain ⟨rfl, rfl⟩ := hx
    exact ⟨rfl, hf⟩
  · rintro ⟨rfl, ha⟩
    exact ⟨before, a, rfl, ha⟩

theorem ended_concat : Ended (before ++ [(a, r)]) ↔ Ended before ∨ r = .terminator := by
  constructor
  · rintro ⟨b, hb⟩
    rcases List.mem_append.mp hb with hb | hb
    · exact .inl ⟨b, hb⟩
    · exact .inr (Prod.mk.inj (List.mem_singleton.mp hb)).2.symm
  · rintro (⟨b, hb⟩ | rfl)
    · exact ⟨b, List.mem_append_left _ hb⟩
    · exact ⟨a, List.mem_append_right _ List.mem_cons_self⟩

/-! ## One argument after the other -/

/-- What the arguments before are to the next one. -/
inductive Phase where
  | sorting
  /-- The next argument is the value of the flag before it. -/
  | awaiting
  /-- The terminator was there. -/
  | closed
  deriving DecidableEq, Repr

namespace Phase

/-- The role of an argument that comes in a phase. -/
def role : Phase → Argument → Role
  | .sorting, a => if a.terminates then .terminator else if a.flag?.isSome then .flag else .other
  | .awaiting, _ => .value
  | .closed, _ => .other

/-- The phase after an argument. -/
def next : Phase → Argument → Phase
  | .sorting, a => if a.terminates then .closed else if a.awaitsValue then .awaiting else .sorting
  | .awaiting, _ => .sorting
  | .closed, _ => .closed

def after (p : Phase) (args : List Argument) : Phase := args.foldl next p

/-- The arguments with their roles. -/
def roles : Phase → List Argument → List (Argument × Role)
  | _, [] => []
  | p, a :: rest => (a, p.role a) :: roles (p.next a) rest

/-- The phase that comes after `before`. -/
structure After (p : Phase) (before : List (Argument × Role)) : Prop where
  awaiting : p = .awaiting ↔ Awaited before
  closed : p = .closed ↔ Ended before

variable {p : Phase}

theorem after_nil : After .sorting [] where
  awaiting := ⟨nofun, fun ⟨_, _, h, _⟩ => by simp at h⟩
  closed := ⟨nofun, fun ⟨_, h⟩ => nomatch h⟩

/-- The phase changes with the role of an argument, and whether it is a flag without its value. -/
theorem next_eq (p : Phase) (a : Argument) :
    p.next a = match p.role a with
      | .flag => if a.awaitsValue then .awaiting else .sorting
      | .value => .sorting
      | .terminator => .closed
      | .other => p := by
  cases p with
  | sorting =>
    rw [next, role]
    by_cases ht : a.terminates = true
    · rw [if_pos ht, if_pos ht]
    · by_cases hf : a.flag?.isSome = true
      · rw [if_neg ht, if_neg ht, if_pos hf]
      · have hw : ¬a.awaitsValue = true := fun hw => hf (isSome_flag?_iff.mpr (awaitsValue_iff.mp hw).names)
        rw [if_neg ht, if_neg ht, if_neg hf, if_neg hw]
  | awaiting => rfl
  | closed => rfl

theorem fits_role (h : After p before) (a : Argument) : Fits before a (p.role a) := by
  have hawaiting := h.awaiting
  have hclosed := h.closed
  cases p with
  | sorting =>
    have hnot : ¬Awaited before ∧ ¬Ended before :=
      ⟨fun k => (by cases hawaiting.mpr k), fun k => (by cases hclosed.mpr k)⟩
    by_cases ht : a.lossy = "--"
    · have hnone : ¬∃ f, a.Names f := fun k => ne_terminator_of_names k ht
      constructor <;> simp [role, terminates_iff, ht, hnone, hnot]
    · by_cases hf : ∃ f, a.Names f
      · constructor <;> simp [role, terminates_iff, isSome_flag?_iff, ht, hf, hnot]
      · constructor <;> simp [role, terminates_iff, isSome_flag?_iff, ht, hf, hnot]
  | awaiting => constructor <;> simp [role, hawaiting.mp rfl]
  | closed =>
    have hnot : ¬Awaited before := fun k => by cases hawaiting.mpr k
    constructor <;> simp [role, hclosed.mp rfl, hnot]

theorem after_next (h : After p before) (a : Argument) : After (p.next a) (before ++ [(a, p.role a)]) := by
  have hclosed := h.closed
  constructor
  · rw [awaited_concat, ← awaitsValue_iff, next_eq]
    cases p with
    | sorting => cases role .sorting a <;> simp
    | awaiting | closed => simp [role]
  · rw [ended_concat, ← hclosed, next_eq]
    cases p with
    | sorting =>
      cases role .sorting a with
      | flag => cases a.awaitsValue <;> simp
      | value | terminator | other => simp
    | awaiting | closed => simp [role]

theorem roles_append (p : Phase) (args more : List Argument) :
    p.roles (args ++ more) = p.roles args ++ (p.after args).roles more := by
  induction args generalizing p with
  | nil => rfl
  | cons a rest ih => rw [List.cons_append, roles, ih, roles, List.cons_append, after, after, List.foldl_cons]

theorem map_roles (p : Phase) (args : List Argument) : (p.roles args).map Prod.fst = args := by
  induction args generalizing p with
  | nil => rfl
  | cons a rest ih => rw [roles, List.map_cons, ih]

theorem follows_roles (h : After p before) (args : List Argument) : Follows before (p.roles args) := by
  induction args generalizing p before with
  | nil => trivial
  | cons a rest ih => exact ⟨fits_role h a, ih (after_next h a)⟩

theorem after_roles (h : After p before) (args : List Argument) : After (p.after args) (before ++ p.roles args) := by
  induction args generalizing p before with
  | nil => rwa [roles, List.append_nil]
  | cons a rest ih =>
    rw [roles, List.append_cons]
    exact ih (after_next h a)

theorem roles_closed (args : List Argument) : roles .closed args = args.map (·, .other) := by
  induction args with
  | nil => rfl
  | cons a rest ih => rw [roles, List.map_cons, ← ih]; rfl

section

variable (rest : List Argument)

theorem roles_terminator (h : a.terminates = true) :
    roles .sorting (a :: rest) = (a, .terminator) :: roles .closed rest := by
  have hrole : role .sorting a = .terminator := if_pos h
  rw [roles, next_eq, hrole]

variable (ht : ¬a.terminates = true)
include ht

theorem roles_other (hf : a.flag?.isNone = true) :
    roles .sorting (a :: rest) = (a, .other) :: roles .sorting rest := by
  have hrole : role .sorting a = .other := by simp [role, ht, Option.isNone_iff_eq_none.mp hf]
  rw [roles, next_eq, hrole]

theorem roles_flag (hf : ¬a.flag?.isNone = true) :
    roles .sorting (a :: rest) = (a, .flag) :: roles (if a.awaitsValue then .awaiting else .sorting) rest := by
  have hsome : a.flag?.isSome = true := by simpa [Option.isSome_iff_ne_none] using hf
  have hrole : role .sorting a = .flag := by rw [role, if_neg ht, if_pos hsome]
  rw [roles, next_eq, hrole]

end

end Phase

open Phase (roles)

/-- Arguments have their roles in one way only. -/
theorem Follows.eq_roles {p : Phase} {xs : List (Argument × Role)} (k : Follows before xs) (h : p.After before) :
    xs = p.roles (xs.map Prod.fst) := by
  induction xs generalizing p before with
  | nil => rfl
  | cons x rest ih =>
    obtain ⟨a, r⟩ := x
    obtain ⟨hfits, hrest⟩ := k
    obtain rfl := hfits.unique (Phase.fits_role h a)
    rw [List.map_cons, roles, ← ih hrest (Phase.after_next h a)]

/-! ## Sides -/

theorem settings_cons (x : Argument × Role) (xs : List (Argument × Role)) :
    settings (x :: xs) = if x.2.isSetting then x.1 :: settings xs else settings xs := by
  unfold settings
  rw [List.filter_cons]
  split <;> rfl

theorem others_cons (x : Argument × Role) (xs : List (Argument × Role)) :
    others (x :: xs) = if x.2 = .other then x.1.lossy :: others xs else others xs := by
  simp only [others, List.filter_cons, decide_eq_true_eq]
  split <;> rfl

theorem settings_append (xs ys : List (Argument × Role)) : settings (xs ++ ys) = settings xs ++ settings ys := by
  rw [settings, List.filter_append, List.map_append]
  rfl

theorem others_append (xs ys : List (Argument × Role)) : others (xs ++ ys) = others xs ++ others ys := by
  rw [others, List.filter_append, List.map_append]
  rfl

theorem settings_closed (args : List Argument) : settings (roles .closed args) = [] := by
  simp [Phase.roles_closed, settings, Role.isSetting]

theorem others_closed (args : List Argument) : others (roles .closed args) = args.map lossy := by
  have hall : ∀ x ∈ args.map fun a => (a, Role.other), decide (x.2 = Role.other) = true := by simp
  rw [Phase.roles_closed, others, List.filter_eq_self.mpr hall, List.map_map]
  rfl

/-- The sides are the arguments with the roles that belong there. -/
theorem sort_eq (args : List Argument) :
    sort args = (settings (roles .sorting args), others (roles .sorting args)) := by
  fun_induction sort args with
  | case1 => rfl
  | case2 a rest ht =>
    rw [Phase.roles_terminator rest ht, settings_cons, others_cons, settings_closed, others_closed]
    rfl
  | case3 a rest ht hf flags texts hs ih =>
    obtain ⟨rfl, rfl⟩ := Prod.mk.inj (hs.symm.trans ih)
    rw [Phase.roles_other rest ht hf, settings_cons, others_cons]
    rfl
  | case4 a ht hf hw =>
    rw [Phase.roles_flag [] ht hf, settings_cons, others_cons]
    rfl
  | case5 a ht hf hw v rest flags texts hs ih =>
    obtain ⟨rfl, rfl⟩ := Prod.mk.inj (hs.symm.trans ih)
    rw [Phase.roles_flag _ ht hf, if_pos hw, roles, settings_cons, others_cons, settings_cons, others_cons]
    rfl
  | case6 a rest ht hf hw flags texts hs ih =>
    obtain ⟨rfl, rfl⟩ := Prod.mk.inj (hs.symm.trans ih)
    rw [Phase.roles_flag rest ht hf, if_neg hw, settings_cons, others_cons]
    rfl

theorem split_cons (program : Argument) (args : List Argument) :
    split (program :: args) =
      (program :: settings (roles .sorting args), others (roles .sorting args)) := by
  rw [split, sort_eq]

/-- Every argument but the terminator is on one of the sides. -/
theorem length_sides {xs : List (Argument × Role)} (h : ¬Ended xs) :
    (settings xs).length + (others xs).length = xs.length := by
  induction xs with
  | nil => rfl
  | cons x rest ih =>
    obtain ⟨a, r⟩ := x
    have hrest := ih fun ⟨b, hb⟩ => h ⟨b, List.mem_cons_of_mem _ hb⟩
    have hr : r ≠ .terminator := fun he => h ⟨a, by rw [he]; exact List.mem_cons_self⟩
    rw [settings_cons, others_cons, List.length_cons, ← hrest]
    cases r with
    | terminator => exact absurd rfl hr
    | flag | value | other => simp [Role.isSetting]; omega

/-- The terminator is on neither of the sides. -/
theorem length_sides_ended (h : ¬Ended before) (a : Argument) (after : List Argument) :
    let xs := before ++ (a, .terminator) :: after.map (·, .other)
    (settings xs).length + (others xs).length + 1 = xs.length := by
  have hafter : ¬Ended (after.map (·, .other)) := fun ⟨b, hb⟩ => by simp at hb
  have hlength := length_sides h
  have hlater := length_sides hafter
  intro xs
  simp only [xs, settings_append, others_append, settings_cons, others_cons, Role.isSetting, reduceCtorEq,
    Bool.false_eq_true, if_false, List.length_append, List.length_cons]
  omega

theorem follows_append {xs ys : List (Argument × Role)} :
    Follows before (xs ++ ys) ↔ Follows before xs ∧ Follows (before ++ xs) ys := by
  induction xs generalizing before with
  | nil => simp [Follows]
  | cons x rest ih => rw [List.cons_append, Follows, Follows, ih, and_assoc, ← List.append_cons]

/-- The argument after a flag that awaits its value is that value. -/
theorem Follows.value_of_awaits {f : Argument} {after : List (Argument × Role)}
    (h : Follows [] (before ++ (f, .flag) :: after)) (hf : f.Awaits) :
    after = [] ∨ ∃ v later, after = (v, .value) :: later := by
  cases after with
  | nil => exact .inl rfl
  | cons x later =>
    obtain ⟨v, r⟩ := x
    rw [List.append_cons, follows_append] at h
    obtain rfl := h.2.1.value.mpr (awaited_concat.mpr ⟨rfl, hf⟩)
    exact .inr ⟨v, later, rfl⟩

/-- There is one terminator at most, and no flag after it. -/
theorem Follows.of_ended {xs : List (Argument × Role)} (h : Follows [] xs) (he : Ended xs) :
    ∃ before a, ∃ after : List Argument,
      xs = before ++ (a, .terminator) :: after.map (·, .other) ∧ ¬Ended before := by
  obtain ⟨a, ha⟩ := he
  obtain ⟨before, after, rfl⟩ := List.append_of_mem ha
  obtain ⟨-, hfits, hafter⟩ := follows_append.mp h
  have hclosed : Phase.After .closed (before ++ [(a, .terminator)]) :=
    ⟨⟨nofun, fun k => by cases (awaited_concat.mp k).1⟩, ⟨fun _ => ended_concat.mpr (.inr rfl), fun _ => rfl⟩⟩
  refine ⟨before, a, after.map Prod.fst, ?_, (hfits.terminator.mp rfl).2.2⟩
  rw [← Phase.roles_closed, ← hafter.eq_roles hclosed]

/-- **A split parts the arguments**: the arguments after the name of the program have one role each, in the only way
in which they can. The name, the flags and their values are on one side and the texts of the other arguments on the
other, both in order; a flag that awaits its value has the next argument behind it, unless there is none. All
arguments are counted on either side but one terminator, after which no argument is a flag. -/
theorem split_partitions (program : Argument) (args : List Argument) :
    ∃ xs : List (Argument × Role), xs.map Prod.fst = args ∧ Follows [] xs ∧
      (∀ ys, ys.map Prod.fst = args → Follows [] ys → ys = xs) ∧
      split (program :: args) = (program :: settings xs, others xs) ∧
      (∀ before f after, xs = before ++ (f, .flag) :: after → f.Awaits → after = [] ∨
        ∃ v later, after = (v, .value) :: later ∧ settings xs = settings before ++ f :: v :: settings later) ∧
      let n := (split (program :: args)).1.length + (split (program :: args)).2.length
      (¬Ended xs ∧ n = (program :: args).length) ∨
        ∃ before a, ∃ after : List Argument,
          xs = before ++ (a, .terminator) :: after.map (·, .other) ∧ ¬Ended before ∧
            n + 1 = (program :: args).length := by
  have hfollows : Follows [] (roles .sorting args) := Phase.follows_roles Phase.after_nil args
  have hargs : (roles .sorting args).length = args.length := by
    rw [← List.length_map Prod.fst, Phase.map_roles]
  refine ⟨roles .sorting args, Phase.map_roles .sorting args, hfollows, fun ys hys hy => ?_, split_cons program args,
    fun before f after hxs hf => ?_, ?_⟩
  · rw [hy.eq_roles Phase.after_nil, hys]
  · rw [hxs] at hfollows ⊢
    refine (hfollows.value_of_awaits hf).imp_right fun ⟨v, later, hafter⟩ => ⟨v, later, hafter, ?_⟩
    rw [hafter, settings_append, settings_cons, settings_cons]
    rfl
  · rw [split_cons]
    by_cases he : Ended (roles .sorting args)
    · obtain ⟨before, a, after, hxs, hbefore⟩ := hfollows.of_ended he
      refine .inr ⟨before, a, after, hxs, hbefore, ?_⟩
      have hlength := length_sides_ended hbefore a after
      rw [← hxs] at hlength
      simp only [List.length_cons]
      omega
    · refine .inl ⟨he, ?_⟩
      have hlength := length_sides he
      simp only [List.length_cons]
      omega

/-- The first terminator is a value, and the flag after the second is none. -/
example : split (["duplexd", "--target", "--", "x", "--", "--target"].map .text) =
    (["duplexd", "--target", "--"].map .text, ["x", "--target"]) := by decide

end Argument

end ScriptLink
