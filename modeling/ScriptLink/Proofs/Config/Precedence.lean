import Mathlib.Data.List.Induction
import ScriptLink.Host.Bootstrap
import ScriptLink.Proofs.Json.Canonical

/-!
# ScriptLink.Proofs.Config.Precedence — which source of settings counts

* `Layer.Keyed`: an object in which no key comes twice. Flags, variables and files give no other layers
  (`keyed_settings?`, `keyed_variables`, `keyed_read?`).
* `Layer.get?_stack`: what a stack has under a name is made of what its layers have there, the lowest first.
* `Layer.get?_stack_of_plain`: where none of it is a table, the topmost layer with the name decides.
* `Config.gather?_precedence`: so the configuration of a process takes a setting from its flags, or else from
  its variables, or else from the topmost file that has it.
-/

namespace ScriptLink

open Value (cover coverMembers insertMember)

namespace Layer

/-- An object whose keys are in strictly increasing order. -/
def Keyed (l : Layer) : Prop := ∃ members, l = .obj members ∧ members.Pairwise fun a b => a.1 < b.1

/-! ## One layer over another -/

theorem lookup_coverMembers {lower upper : List (String × Value)}
    (h : upper.Pairwise fun a b => a.1 < b.1) (name : String) :
    (coverMembers lower upper).lookup name =
      (upper.lookup name).elim (lower.lookup name) fun v => some (cover ((lower.lookup name).getD .null) v) := by
  induction upper generalizing lower with
  | nil => rw [coverMembers, List.lookup_nil, Option.elim_none]
  | cons m rest ih =>
    obtain ⟨key, v⟩ := m
    obtain ⟨hkey, hrest⟩ := List.pairwise_cons.mp h
    rw [coverMembers, ih hrest]
    by_cases hname : name = key
    · subst hname
      rw [Value.lookup_eq_none_of_lt hkey, List.lookup_cons_self, Value.lookup_insertMember_self,
        Option.elim_none, Option.elim_some]
    · have hb : (name == key) = false := beq_eq_false_iff_ne.mpr hname
      rw [Value.lookup_insertMember_of_ne hname, List.lookup_cons, hb]

/-- What a layer has under a name covers what the layer below has there. -/
theorem get?_cover {lower upper : Layer} (hl : lower.Keyed) (hu : upper.Keyed) (name : String) :
    (cover lower upper).get? name =
      (upper.get? name).elim (lower.get? name) fun v => some (cover ((lower.get? name).getD .null) v) := by
  obtain ⟨below, rfl, -⟩ := hl
  obtain ⟨above, rfl, habove⟩ := hu
  rw [cover]
  exact lookup_coverMembers habove name

theorem pairwise_coverMembers {lower upper : List (String × Value)}
    (h : lower.Pairwise fun a b => a.1 < b.1) :
    (coverMembers lower upper).Pairwise fun a b => a.1 < b.1 := by
  induction upper generalizing lower with
  | nil => exact h
  | cons m rest ih =>
    rw [coverMembers]
    exact ih (Value.pairwise_insertMember _ h)

theorem keyed_cover {lower upper : Layer} (hl : lower.Keyed) (hu : upper.Keyed) :
    Keyed (cover lower upper) := by
  obtain ⟨below, rfl, hbelow⟩ := hl
  obtain ⟨above, rfl, -⟩ := hu
  exact ⟨_, by rw [cover]; rfl, pairwise_coverMembers hbelow⟩

theorem keyed_empty : empty.Keyed := ⟨[], rfl, .nil⟩

theorem keyed_single (name : String) (v : Value) : (single name v).Keyed :=
  ⟨_, rfl, List.pairwise_singleton _ _⟩

/-! ## Stacks -/

theorem keyed_stack {layers : List Layer} (h : ∀ l ∈ layers, Keyed l) : (stack layers).Keyed := by
  induction layers using List.reverseRecOn with
  | nil => exact keyed_empty
  | append_singleton below top ih =>
    rw [List.forall_mem_append, List.forall_mem_singleton] at h
    rw [stack_concat]
    exact keyed_cover (ih h.1) h.2

/-- What a stack has under a name is made of what its layers have there, the lowest first. -/
theorem get?_stack {layers : List Layer} (h : ∀ l ∈ layers, Keyed l) (name : String) :
    (stack layers).get? name = (layers.filterMap fun l => l.get? name).foldl
      (fun below v => some (cover (below.getD .null) v)) none := by
  induction layers using List.reverseRecOn with
  | nil => rfl
  | append_singleton below top ih =>
    rw [List.forall_mem_append, List.forall_mem_singleton] at h
    rw [stack_concat, get?_cover (keyed_stack h.1) h.2, ih h.1, List.filterMap_append, List.foldl_append]
    cases htop : top.get? name with
    | none => rw [List.filterMap_cons_none htop, List.filterMap_nil, List.foldl_nil, Option.elim_none]
    | some v =>
      rw [List.filterMap_cons_some htop, List.filterMap_nil, List.foldl_cons, List.foldl_nil, Option.elim_some]

/-- The topmost layer that has a name. -/
def topmost? (name : String) (layers : List Layer) : Option Layer :=
  layers.reverse.find? fun l => (l.get? name).isSome

theorem topmost?_concat (name : String) (below : List Layer) (top : Layer) :
    topmost? name (below ++ [top]) = if (top.get? name).isSome then some top else topmost? name below := by
  unfold topmost?
  rw [List.reverse_append, List.reverse_singleton, List.singleton_append, List.find?_cons]
  cases (top.get? name).isSome with
  | true => rfl
  | false => rfl

theorem cover_of_plain {v : Value} (h : ∀ members, v ≠ .obj members) (lower : Value) :
    cover lower v = v := by
  cases v with
  | obj members => exact absurd rfl (h members)
  | _ => simp only [cover]

/-- Where no layer has a table under a name, the topmost that has the name decides. -/
theorem get?_stack_of_plain {layers : List Layer} (h : ∀ l ∈ layers, Keyed l) {name : String}
    (hplain : ∀ l ∈ layers, ∀ members, l.get? name ≠ some (.obj members)) :
    (stack layers).get? name = (topmost? name layers).bind fun l => l.get? name := by
  induction layers using List.reverseRecOn with
  | nil => rfl
  | append_singleton below top ih =>
    rw [List.forall_mem_append, List.forall_mem_singleton] at h hplain
    rw [stack_concat, get?_cover (keyed_stack h.1) h.2, ih h.1 hplain.1, topmost?_concat]
    cases htop : top.get? name with
    | none => rfl
    | some v =>
      rw [Option.elim_some, cover_of_plain fun members hv => hplain.2 members (htop.trans (congrArg some hv))]
      exact htop.symm

end Layer

/-! ## Flags and variables -/

theorem exists_of_mem_mapM {f : α → Option β} {xs : List α} {ys : List β} (h : xs.mapM f = some ys) {y : β}
    (hy : y ∈ ys) : ∃ x ∈ xs, f x = some y := by
  induction xs generalizing ys with
  | nil =>
    cases h
    cases hy
  | cons x rest ih =>
    rw [List.mapM_cons] at h
    obtain ⟨z, hz, h⟩ := Option.bind_eq_some_iff.mp h
    obtain ⟨zs, hzs, h⟩ := Option.bind_eq_some_iff.mp h
    cases h
    rcases List.mem_cons.mp hy with rfl | hy
    · exact ⟨x, List.mem_cons_self, hz⟩
    · obtain ⟨w, hw, hy⟩ := ih hzs hy
      exact ⟨w, List.mem_cons_of_mem _ hw, hy⟩

theorem Argument.keyed_setting? {f : Flag} {v : Option String} {l : Layer} (h : setting? f v = some l) :
    l.Keyed := by
  cases v with
  | none =>
    cases h
    exact Layer.keyed_single _ _
  | some text =>
    obtain ⟨v, -, rfl⟩ := Option.map_eq_some_iff.mp h
    exact Layer.keyed_single _ _

theorem Argument.keyed_settings? {flags : List Argument} {s : Argument.Settings}
    (h : Argument.settings? flags = some s) : s.layer.Keyed := by
  unfold Argument.settings? at h
  obtain ⟨found, -, h⟩ := Option.bind_eq_some_iff.mp h
  split at h
  · cases h
  · obtain ⟨layers, hlayers, h⟩ := Option.bind_eq_some_iff.mp h
    dsimp only at h
    split at h
    · cases h
    · cases h
      refine Layer.keyed_stack (List.forall_mem_cons.mpr ⟨Layer.keyed_single _ _, fun l hl => ?_⟩)
      obtain ⟨m, -, hm⟩ := exists_of_mem_mapM hlayers hl
      exact keyed_setting? hm

/-- A variable that is a setting has a name. -/
theorem Config.Variable.path?_ne_nil {name : String} {path : List String} (h : path? name = some path) :
    path ≠ [] := by
  obtain ⟨rest, -, h⟩ := Option.bind_eq_some_iff.mp h
  dsimp only at h
  split at h
  · cases h
  · cases h
    exact mt List.map_eq_nil_iff.mp (List.splitOn_ne_nil _ _)

theorem Config.keyed_variable? {name value : String} {l : Layer}
    (h : Variable.setting? name value = some l) : l.Keyed := by
  obtain ⟨path, hpath, rfl⟩ := Option.map_eq_some_iff.mp h
  cases path with
  | nil => exact absurd rfl (Variable.path?_ne_nil hpath)
  | cons part rest => exact Layer.keyed_single _ _

theorem Config.keyed_variables (environment : List (String × String)) :
    (Config.Variable.layer environment).Keyed := by
  refine Layer.keyed_stack fun l hl => ?_
  obtain ⟨m, -, h⟩ := List.mem_filterMap.mp hl
  exact keyed_variable? h

/-! ## Files

The document of a file is planted at places that begin with a key, and so it stays an object in key order.
-/

namespace Config.Toml

/-- A place within a table: it begins with a key. -/
def Place.Named (place : Place) : Prop := ∃ name rest, place = .key name :: rest

theorem Place.named_concat {place : Place} (h : place = [] ∨ Named place) (name : String) :
    Named (place ++ [.key name]) := by
  rcases h with rfl | ⟨first, rest, rfl⟩
  · exact ⟨name, [], rfl⟩
  · exact ⟨first, rest ++ [.key name], rfl⟩

theorem Place.named_append {place : Place} (h : Named place) (more : Place) : Named (place ++ more) := by
  obtain ⟨first, rest, rfl⟩ := h
  exact ⟨first, rest ++ more, rfl⟩

theorem keyed_plant {place : Place} (h : place.Named) (v : Value) {content : Layer} (hc : content.Keyed) :
    Layer.Keyed (plant v place content) := by
  obtain ⟨name, rest, rfl⟩ := h
  obtain ⟨members, rfl, hmembers⟩ := hc
  rw [plant]
  exact ⟨_, rfl, Value.pairwise_insertMember _ hmembers⟩

namespace Draft

variable {d d' : Draft} {place place' : Place} {names : List String}

/-- A header leads through tables and changes nothing but their roles. -/
theorem descend?_spec (h : d.descend? place names = some (place', d')) (hp : place = [] ∨ place.Named) :
    d'.content = d.content ∧ (place' = [] ∨ Place.Named place') := by
  induction names generalizing d place with
  | nil =>
    cases h
    exact ⟨rfl, hp⟩
  | cons name names ih =>
    have hnext := Place.named_concat hp name
    unfold descend? at h
    dsimp only at h
    split at h
    · have hd' := ih h (.inr hnext)
      exact hd'
    · cases h
    · exact ih h (.inr (Place.named_append hnext _))
    · exact ih h (.inr hnext)

theorem follow?_spec {ends : Bool} (h : d.follow? place ends names = some (place', d'))
    (hp : place = [] ∨ place.Named) : d'.content = d.content ∧ (place' = [] ∨ Place.Named place') := by
  induction names generalizing d place ends with
  | nil =>
    unfold follow? at h
    split at h
    · cases h
      exact ⟨rfl, hp⟩
    · cases h
  | cons name names ih =>
    have hnext := Place.named_concat hp name
    unfold follow? at h
    dsimp only at h
    split at h
    · have hd' := ih h (.inr hnext)
      exact hd'
    · exact ih h (.inr hnext)
    · exact ih h (.inr hnext)
    · exact ih h (.inr (Place.named_append hnext _))
    · cases h
    · cases h

theorem keyed_openTable? {header : List String} (h : d.openTable? header = some (place, d'))
    (hd : Layer.Keyed d.content) : Layer.Keyed d'.content ∧ place.Named := by
  obtain ⟨name, -, h⟩ := Option.bind_eq_some_iff.mp h
  obtain ⟨⟨above, e⟩, he, h⟩ := Option.bind_eq_some_iff.mp h
  obtain ⟨hcontent, habove⟩ := descend?_spec he (.inl rfl)
  have hplace := Place.named_concat habove name
  have hkeyed : Layer.Keyed e.content := hcontent ▸ hd
  dsimp only at h
  split at h
  · cases h
    exact ⟨keyed_plant hplace _ hkeyed, hplace⟩
  · cases h
    exact ⟨hkeyed, hplace⟩
  · cases h

theorem keyed_openRow? {header : List String} (h : d.openRow? header = some (place, d'))
    (hd : Layer.Keyed d.content) : Layer.Keyed d'.content ∧ place.Named := by
  obtain ⟨name, -, h⟩ := Option.bind_eq_some_iff.mp h
  obtain ⟨⟨above, e⟩, he, h⟩ := Option.bind_eq_some_iff.mp h
  obtain ⟨hcontent, habove⟩ := descend?_spec he (.inl rfl)
  have hrow (n : Nat) := Place.named_append (Place.named_concat habove name) [.nth n]
  have hkeyed : Layer.Keyed e.content := hcontent ▸ hd
  dsimp only at h
  split at h
  · cases h
    exact ⟨keyed_plant (hrow 0) _ hkeyed, hrow 0⟩
  · cases h
    exact ⟨keyed_plant (hrow _) _ hkeyed, hrow _⟩
  · cases h

theorem keyed_define? {key : List String} {v : Value} (h : d.define? place key v = some d')
    (hd : Layer.Keyed d.content) (hp : place = [] ∨ place.Named) : Layer.Keyed d'.content := by
  obtain ⟨name, -, h⟩ := Option.bind_eq_some_iff.mp h
  obtain ⟨⟨table, e⟩, he, h⟩ := Option.bind_eq_some_iff.mp h
  obtain ⟨hcontent, htable⟩ := follow?_spec he hp
  have hkeyed : Layer.Keyed e.content := hcontent ▸ hd
  dsimp only at h
  split at h
  · cases h
    exact keyed_plant (Place.named_concat htable name) _ hkeyed
  · cases h

end Draft

/-- What holds of a document while it is read. -/
def State.Keyed (s : State) : Prop := Layer.Keyed s.2.content ∧ (s.1 = [] ∨ s.1.Named)

theorem keyed_statement? {s s' : State} {cs rest : List Char} (h : statement? s cs = some (s', rest))
    (hs : State.Keyed s) : State.Keyed s' := by
  unfold statement? at h
  split at h
  · obtain ⟨header, -, h⟩ := Option.bind_eq_some_iff.mp h
    obtain ⟨opened, hopened, h⟩ := Option.bind_eq_some_iff.mp h
    cases h
    obtain ⟨hcontent, hplace⟩ := Draft.keyed_openRow? hopened hs.1
    exact ⟨hcontent, .inr hplace⟩
  · obtain ⟨header, -, h⟩ := Option.bind_eq_some_iff.mp h
    obtain ⟨opened, hopened, h⟩ := Option.bind_eq_some_iff.mp h
    cases h
    obtain ⟨hcontent, hplace⟩ := Draft.keyed_openTable? hopened hs.1
    exact ⟨hcontent, .inr hplace⟩
  · obtain ⟨key, -, h⟩ := Option.bind_eq_some_iff.mp h
    dsimp only at h
    split at h
    · obtain ⟨v, -, h⟩ := Option.bind_eq_some_iff.mp h
      obtain ⟨d, hd, h⟩ := Option.bind_eq_some_iff.mp h
      cases h
      exact ⟨Draft.keyed_define? hd hs.1 hs.2, hs.2⟩
    · cases h

theorem keyed_statements? {fuel : Nat} {s s' : State} {cs : List Char}
    (h : statements? fuel s cs = some s') (hs : State.Keyed s) : State.Keyed s' := by
  induction fuel generalizing s cs with
  | zero => cases h
  | succ fuel ih =>
    unfold statements? at h
    split at h
    · cases h
      exact hs
    · obtain ⟨after, hafter, h⟩ := Option.bind_eq_some_iff.mp h
      have hkeyed := keyed_statement? hafter hs
      dsimp only at h
      split at h
      · cases h
        exact hkeyed
      · obtain ⟨rest, -, h⟩ := Option.bind_eq_some_iff.mp h
        exact ih h hkeyed

theorem keyed_read? {text : String} {content : Layer} (h : read? text = some content) : content.Keyed := by
  obtain ⟨s, hs, rfl⟩ := Option.map_eq_some_iff.mp h
  exact (keyed_statements? hs ⟨Layer.keyed_empty, .inl rfl⟩).1

end Config.Toml

namespace SettingsFile

variable {tree : FileTree}

theorem keyed_read? {path : String} {f : SettingsFile} (h : read? tree path = some f) :
    f.content.Keyed := by
  unfold read? at h
  split at h
  · split at h
    · cases h
    · obtain ⟨content, hcontent, rfl⟩ := Option.map_eq_some_iff.mp h
      exact Config.Toml.keyed_read? hcontent
  · cases h

theorem keyed_chainFor? {fuel : Nat} {seen : List (List String)} {path : String} {layers : List Layer}
    (h : chainFor? tree fuel seen path = some layers) : ∀ l ∈ layers, l.Keyed := by
  induction fuel generalizing seen path layers with
  | zero => cases h
  | succ fuel ih =>
    obtain ⟨f, hf, h⟩ := Option.bind_eq_some_iff.mp h
    have hcontent := keyed_read? hf
    split at h
    · cases h
    · obtain ⟨base, -, h⟩ := Option.bind_eq_some_iff.mp h
      split at h
      · cases h
        exact List.forall_mem_singleton.mpr hcontent
      · obtain ⟨below, hbelow, h⟩ := Option.bind_eq_some_iff.mp h
        cases h
        exact List.forall_mem_append.mpr ⟨ih hbelow, List.forall_mem_singleton.mpr hcontent⟩

theorem keyed_first? {paths : List String} {layers : List Layer} (h : first? tree paths = some layers) :
    ∀ l ∈ layers, l.Keyed := by
  unfold first? at h
  split at h
  · rename_i chain hchain
    cases h
    obtain ⟨path, -, hpath⟩ := List.exists_of_findSome?_eq_some hchain
    exact keyed_chainFor? hpath
  · split at h
    · cases h
      exact List.forall_mem_nil _
    · cases h

end SettingsFile

theorem Config.keyed_fileLayers? {s : Argument.Settings} {around : Surroundings} {layers : List Layer}
    (h : fileLayers? s around = some layers) : ∀ l ∈ layers, l.Keyed := by
  unfold fileLayers? at h
  split at h
  · exact SettingsFile.keyed_chainFor? h
  · exact SettingsFile.keyed_first? h

/-! ## Precedence -/

/-- A setting is read from the topmost layer that has it, as if there were no other. -/
theorem Config.setting?_stack (read : Value → Option α) {name : String} {layers : List Layer}
    (h : ∀ l ∈ layers, l.Keyed) (hplain : ∀ l ∈ layers, ∀ members, l.get? name ≠ some (.obj members)) :
    setting? read name (Layer.stack layers) =
      (Layer.topmost? name layers).elim (some none) (setting? read name) := by
  unfold setting?
  rw [Layer.get?_stack_of_plain h hplain]
  cases Layer.topmost? name layers with
  | none => rfl
  | some top => rfl

/-- **Precedence**: the configuration of a process reads its settings from the layers of its files, its
variables and its flags. A setting that no layer gives as a table is read from the topmost layer that has it:
from the flags, or else from the variables, or else from the topmost file. -/
theorem Config.gather?_precedence {flags : List Argument} {around : Surroundings} {config : Config}
    (h : gather? flags around = some config) :
    ∃ s files, Argument.settings? flags = some s ∧ fileLayers? s around = some files ∧
      let layers := files ++ [Variable.layer around.environment, s.layer]
      ofLayer? (Layer.stack layers) = some config ∧
      ∀ {α : Type} (read : Value → Option α) (name : String),
        (∀ l ∈ layers, ∀ members, l.get? name ≠ some (.obj members)) →
        setting? read name (Layer.stack layers) =
          if (s.layer.get? name).isSome then setting? read name s.layer
          else if ((Variable.layer around.environment).get? name).isSome then
            setting? read name (Variable.layer around.environment)
          else (Layer.topmost? name files).elim (some none) (setting? read name) := by
  obtain ⟨s, hs, h⟩ := Option.bind_eq_some_iff.mp h
  obtain ⟨files, hfiles, h⟩ := Option.bind_eq_some_iff.mp h
  refine ⟨s, files, hs, hfiles, h, fun read name hplain => ?_⟩
  have hkeyed : ∀ l ∈ files ++ [Variable.layer around.environment, s.layer], l.Keyed :=
    List.forall_mem_append.mpr ⟨keyed_fileLayers? hfiles,
      List.forall_mem_cons.mpr ⟨keyed_variables _,
        List.forall_mem_singleton.mpr (Argument.keyed_settings? hs)⟩⟩
  rw [setting?_stack read hkeyed hplain, List.append_cons, Layer.topmost?_concat, Layer.topmost?_concat]
  split
  · rfl
  · split
    · rfl
    · rfl

end ScriptLink
