import ScriptLink.Module.Fallback
import ScriptLink.Proofs.Url.Reading

/-!
# ScriptLink.Proofs.Module.Candidates — where else a module is looked for

* `within_iff`: a segment is left out just if it is one of the directories as they are written in the URL.
* `moved_eq`: a segment of which something is left is put behind the directories as one component, and the last
  component is encoded once more. `text_moved_ne` has it that this is another specifier.
* `candidates_move` is the list of candidates: nothing but the path changes, and the last component stays the same
  exactly if no percent sign is in it.
-/

namespace ScriptLink

open Url

/-! ## Directories that are there already -/

namespace Fallback

theorem occursIn_iff (part cs : List Char) : occursIn part cs = true ↔ part <:+: cs := by
  induction cs with
  | nil => rw [occursIn, List.isEmpty_iff, List.infix_nil]
  | cons c cs ih => rw [occursIn, Bool.or_eq_true, List.isPrefixOf_iff_prefix, ih, List.infix_cons_iff]

/-- What begins with a slash does not begin before one. -/
theorem slash_infix_append {d : List Char} (hd : '/' ∉ d) (part cs : List Char) :
    '/' :: part <:+: d ++ cs ↔ '/' :: part <:+: cs := by
  induction d with
  | nil => rfl
  | cons c d ih =>
    rw [List.mem_cons, not_or] at hd
    rw [List.cons_append, List.infix_cons_iff, List.cons_prefix_cons, ih hd.2]
    exact or_iff_right fun h => hd.1 h.1

theorem prefix_slash_iff {s d : List Char} (hs : '/' ∉ s) (hd : '/' ∉ d) (cs : List Char) :
    s ++ ['/'] <+: d ++ '/' :: cs ↔ s = d := by
  induction s generalizing d with
  | nil =>
    cases d with
    | nil => simp
    | cons e d => simp_all
  | cons c s ih =>
    rw [List.mem_cons, not_or] at hs
    cases d with
    | nil => simp [Ne.symm hs.1]
    | cons e d =>
      rw [List.mem_cons, not_or] at hd
      rw [List.cons_append, List.cons_append, List.cons_prefix_cons, ih hs.2 hd.2, List.cons.injEq]

/-- Between two slashes of a path stand its directories. -/
theorem infix_pathOf_iff {ds : List (List Char)} {s f : List Char} (hs : '/' ∉ s) (hds : ∀ d ∈ ds, '/' ∉ d)
    (hf : '/' ∉ f) : '/' :: (s ++ ['/']) <:+: FileUrl.pathOf ds f ↔ s ∈ ds := by
  induction ds with
  | nil =>
    rw [FileUrl.pathOf, FileUrl.slashed_nil, List.nil_append, List.infix_cons_iff, List.cons_prefix_cons]
    refine iff_of_false ?_ List.not_mem_nil
    rintro (⟨-, h⟩ | h)
    · exact hf (h.subset (by simp))
    · exact hf (h.subset (by simp))
  | cons d ds ih =>
    have hd := hds d List.mem_cons_self
    rw [FileUrl.pathOf, FileUrl.slashed_cons, List.append_assoc, List.cons_append, List.infix_cons_iff,
      List.cons_prefix_cons, prefix_slash_iff hs hd, slash_infix_append hd, List.mem_cons]
    exact or_congr (and_iff_right rfl) (ih fun e he => hds e (List.mem_cons_of_mem d he))

theorem within_iff {u : FileUrl} (hu : u.Sound) {s : String} (hs : '/' ∉ s.toList) :
    within u s = true ↔ s.toList ∈ u.directories := by
  rw [within, occursIn_iff, hu.path]
  exact infix_pathOf_iff hs (fun d hd => (hu.parts d hd).slash) hu.name.slash

end Fallback

/-! ## One more component -/

namespace FileUrl

/-- What reading leaves of a component. -/
def unbroken (cs : List Char) : List Char := cs.filter fun c => c != '\t' && c != '\n' && c != '\r'

/-- The URL with one more directory and another last component. -/
def below (u : FileUrl) (d f : List Char) : FileUrl := { u with path := pathOf (u.directories ++ [d]) f }

theorem unbroken_eq_self {cs : List Char} (h : ∀ c ∈ cs, pathSet c = false) : unbroken cs = cs := by
  refine List.filter_eq_self.mpr fun c hc => ?_
  have hset := h c hc
  simp only [Bool.and_eq_true, bne_iff_ne]
  refine ⟨⟨?_, ?_⟩, ?_⟩ <;> rintro rfl <;> cases hset

theorem pathSet_of_componentSet {c : Char} (h : componentSet c = false) :
    pathSet c = false ∧ c ≠ '/' ∧ c ≠ '\\' := by
  simp only [componentSet, Bool.or_eq_false_iff, beq_eq_false_iff_ne] at h
  exact ⟨h.1.1.1, h.1.1.2, h.2⟩

/-- A component that is encoded is a part, unless it is a dot segment. -/
theorem part_component {cs : List Char} (hone : cs ≠ ['.']) (htwo : cs ≠ ['.', '.']) :
    Part (encodeBy componentSet cs) where
  plain _ hc := (mem_encodeBy hc).elim (fun h => (plain_of_mem_marks h).1) fun h => pathSet_of_componentSet h.2
  single := Bool.eq_false_iff.mpr fun h => hone (isSingleDot_component h)
  double := Bool.eq_false_iff.mpr fun h => htwo (isDoubleDot_component h)

theorem Part.not_dots {cs : List Char} (h : Part cs) : cs ≠ ['.'] ∧ cs ≠ ['.', '.'] := by
  constructor <;> rintro rfl
  · exact absurd h.single (by decide)
  · exact absurd h.double (by decide)

theorem settled_of_ne {path : List Char} (h : path ≠ ['/']) (cs : List Char) : settled path cs = cs := by
  unfold settled
  split
  · exact if_neg fun hd => h hd.1
  · rfl

variable {u : FileUrl}

/-- The URL without its last component is that of its directories. -/
theorem Sound.path_pop (hu : u.Sound) :
    (if u.pop.path.length = 1 then u.pop.path else u.pop.path ++ ['/']) = '/' :: slashed u.directories := by
  have hthrough : throughLastSlash u.path = '/' :: slashed u.directories := by
    rw [hu.path]
    exact throughLastSlash_pathOf _ hu.name.slash
  rcases List.eq_nil_or_concat u.directories with hds | ⟨es, d, hds⟩
  · rw [hds, slashed_nil] at hthrough
    have hpop : u.pop.path = ['/'] := by
      rw [pop, hthrough]
      rfl
    rw [hpop, hds]
    rfl
  · have hslash : '/' :: slashed u.directories = pathOf es d ++ ['/'] := by
      rw [hds, List.concat_eq_append, slashed_concat]
      rfl
    have hne : slashed es ++ d ≠ [] := by
      intro hnil
      have hlen := length_le_slashed es
      rw [(List.append_eq_nil_iff.mp hnil).1] at hlen
      have hes := List.eq_nil_of_length_eq_zero (Nat.le_zero.mp hlen)
      refine hu.first ?_
      rw [hds, hes, (List.append_eq_nil_iff.mp hnil).2]
      rfl
    have hpop : u.pop.path = pathOf es d := by
      rw [pop, hthrough, hslash]
      dsimp only
      split
      case h_1 hroot => exact absurd (List.cons.inj hroot).2 (by simp)
      case h_2 => rw [List.dropLast_concat]
    have hlong : (pathOf es d).length ≠ 1 := by
      have hpos := List.length_pos_iff.mpr hne
      rw [pathOf, List.length_cons]
      omega
    rw [hpop, if_neg hlong, hslash]

/-- A path that does not begin with an empty directory stays as it is. -/
theorem rooted_of_first {ds : List (List Char)} {f : List Char} (hds : ∀ d ∈ ds, Part d) (hf : Part f)
    (hfirst : ds.head? ≠ some []) : rooted (pathOf ds f) = pathOf ds f := by
  rw [rooted_pathOf (fun d hd => (hds d hd).slash) hf.slash]
  cases ds with
  | nil => rfl
  | cons d ds =>
    have hd : d ≠ [] := fun hd => hfirst (by rw [hd]; rfl)
    rw [List.dropWhile_cons_of_neg (by simpa using hd)]

/-- A component is put behind a path that a slash ends. -/
theorem push_eq {ds : List (List Char)} {cs : List Char} (hone : cs ≠ ['.']) (htwo : cs ≠ ['.', '.'])
    (hstart : (if u.path.length = 1 then u.path else u.path ++ ['/']) = '/' :: slashed ds)
    (hpart : Part (encodeBy componentSet (unbroken cs))) :
    u.push cs = { u with
      path := rooted (pathOf ds (settled ('/' :: slashed ds) (encodeBy componentSet (unbroken cs)))) } := by
  rw [push, if_neg (by simp [hone, htwo])]
  dsimp only
  rw [hstart, show cs.filter _ = unbroken cs from rfl, extend_part hpart, if_neg (by simp), List.append_nil]
  rfl

end FileUrl

/-! ## The file below one more directory -/

namespace Fallback

/-- Something is left of a segment that is a name. -/
def Enters (s : String) : Prop :=
  FileUrl.unbroken s.toList ≠ [] ∧ FileUrl.unbroken s.toList ≠ ['.'] ∧ FileUrl.unbroken s.toList ≠ ['.', '.']

/-- The segment as a directory of a URL. -/
def component (u : FileUrl) (s : String) : List Char :=
  FileUrl.settled ('/' :: FileUrl.slashed u.directories) (encodeBy componentSet (FileUrl.unbroken s.toList))

variable {u : FileUrl} {s : String}

theorem part_of_enters (hs : Enters s) (u : FileUrl) : FileUrl.Part (component u s) :=
  (FileUrl.part_component hs.2.1 hs.2.2).settled _

theorem component_ne_nil (hs : Enters s) (u : FileUrl) : component u s ≠ [] := by
  intro hnil
  have hlen : (FileUrl.unbroken s.toList).length ≤ (component u s).length := by
    rw [component, FileUrl.length_settled]
    exact length_le_encodeBy _
  rw [hnil] at hlen
  exact hs.1 (List.eq_nil_of_length_eq_zero (Nat.le_zero.mp hlen))

/-- The directories of a URL and one more. -/
theorem parts_below (hu : u.Sound) (hs : Enters s) : ∀ d ∈ u.directories ++ [component u s], FileUrl.Part d := by
  intro d hd
  rcases List.mem_append.mp hd with hd | hd
  · exact hu.parts d hd
  · rw [List.mem_singleton.mp hd]
    exact part_of_enters hs u

theorem first_below (hu : u.Sound) (hs : Enters s) : (u.directories ++ [component u s]).head? ≠ some [] := by
  cases hds : u.directories with
  | nil => exact fun h => component_ne_nil hs u (Option.some.inj h)
  | cons d ds => exact fun h => hu.first (by rw [hds]; exact h)

theorem moved_eq (hu : u.Sound) (hs : Enters s) :
    moved u s = u.below (component u s) (encodeBy componentSet u.fileName) := by
  have hone : s.toList ≠ ['.'] := fun h => hs.2.1 (by rw [h]; rfl)
  have htwo : s.toList ≠ ['.', '.'] := fun h => hs.2.2 (by rw [h]; rfl)
  -- first the segment is put behind the directories
  have hpush : u.pop.push s.toList = { u with path := FileUrl.pathOf u.directories (component u s) } := by
    rw [FileUrl.push_eq hone htwo hu.path_pop (FileUrl.part_component hs.2.1 hs.2.2)]
    exact congrArg (FileUrl.mk u.host · u.query u.fragment)
      (FileUrl.rooted_of_first hu.parts (part_of_enters hs u) hu.first)
  -- then the last component, which has nothing to be left out but may have percent signs
  have hclean : FileUrl.unbroken u.fileName = u.fileName :=
    FileUrl.unbroken_eq_self fun c hc => (hu.name.plain c hc).1
  have hname : FileUrl.Part (encodeBy componentSet u.fileName) :=
    FileUrl.part_component hu.name.not_dots.1 hu.name.not_dots.2
  have hslash : '/' :: FileUrl.slashed (u.directories ++ [component u s]) =
      FileUrl.pathOf u.directories (component u s) ++ ['/'] := by
    rw [FileUrl.slashed_concat]
    rfl
  have hlong : (FileUrl.pathOf u.directories (component u s)).length ≠ 1 := by
    have hpos := List.length_pos_iff.mpr (component_ne_nil hs u)
    rw [FileUrl.pathOf, List.length_cons, List.length_append]
    omega
  have hroot : '/' :: FileUrl.slashed (u.directories ++ [component u s]) ≠ ['/'] := by
    rw [FileUrl.slashed_concat]
    simp
  rw [moved, hpush, FileUrl.push_eq hu.name.not_dots.1 hu.name.not_dots.2 ((if_neg hlong).trans hslash.symm)
    (by rw [hclean]; exact hname), hclean, FileUrl.settled_of_ne hroot,
    FileUrl.rooted_of_first (parts_below hu hs) hname (first_below hu hs)]
  rfl

/-- The file below one more directory is sound again, for its last component is encoded as one. -/
theorem sound_below (hu : u.Sound) (hs : Enters s) :
    (u.below (component u s) (encodeBy componentSet u.fileName)).Sound := by
  have hname : FileUrl.Part (encodeBy componentSet u.fileName) :=
    FileUrl.part_component hu.name.not_dots.1 hu.name.not_dots.2
  exact FileUrl.sound_of_path rfl (parts_below hu hs) hname (first_below hu hs) hu.host hu.query hu.fragment

/-- Its path is longer, so that it is another specifier. -/
theorem text_moved_ne {specifier : String} (hparse : FileUrl.parse? specifier = some u) (hs : Enters s) :
    (moved u s).text ≠ specifier := by
  intro htext
  have hu := FileUrl.sound_parse hparse
  rw [moved_eq hu hs] at htext
  rw [← htext] at hparse
  have hlen := (sound_below hu hs).length_path hparse rfl
  have hname : u.fileName.length ≤ (encodeBy componentSet u.fileName).length := length_le_encodeBy _
  rw [hu.path, FileUrl.below, FileUrl.pathOf, FileUrl.pathOf, FileUrl.slashed_concat] at hlen
  simp only [List.length_cons, List.length_append, List.length_nil] at hlen
  omega

/-! ## The candidates -/

theorem candidates_of_parse {specifier : String} (hparse : FileUrl.parse? specifier = some u) (hname : u.fileName ≠ [])
    (segments : List String) : candidates segments specifier =
      ((segments.filter fun s => !within u s).map fun s => (moved u s).text).filter (· != specifier) := by
  rw [candidates, hparse]
  exact if_neg (by simp [hname])

theorem exists_of_mem_candidates {segments : List String} {specifier x : String}
    (h : x ∈ candidates segments specifier) : ∃ u, FileUrl.parse? specifier = some u ∧ u.fileName ≠ [] := by
  unfold candidates at h
  split at h
  case h_1 => cases h
  case h_2 u hparse =>
    split at h
    case isTrue => cases h
    case isFalse hname => exact ⟨u, hparse, by simpa using hname⟩

/-- Each segment gives its candidates for itself. -/
theorem candidates_cons (s : String) (segments : List String) (specifier : String) :
    candidates (s :: segments) specifier = candidates [s] specifier ++ candidates segments specifier := by
  unfold candidates
  split
  · rfl
  · split
    · rfl
    · rw [← List.singleton_append, List.filter_append, List.map_append, List.filter_append]

theorem candidates_eq_flatMap (segments : List String) (specifier : String) :
    candidates segments specifier = segments.flatMap (candidates [·] specifier) := by
  induction segments with
  | nil =>
    unfold candidates
    split
    · rfl
    · split <;> rfl
  | cons s segments ih => rw [candidates_cons, ih, List.flatMap_cons]

section

variable {specifier : String} (hparse : FileUrl.parse? specifier = some u) (hname : u.fileName ≠ [])
include hparse hname

theorem candidates_of_mem (hs : '/' ∉ s.toList) (hmem : s.toList ∈ u.directories) : candidates [s] specifier = [] := by
  have hwithin : within u s = true := (within_iff (FileUrl.sound_parse hparse) hs).mpr hmem
  rw [candidates_of_parse hparse hname, List.filter_cons_of_neg (by simp [hwithin])]
  rfl

theorem candidates_of_not_mem (hs : '/' ∉ s.toList) (henters : Enters s) (hmem : s.toList ∉ u.directories) :
    candidates [s] specifier = [(u.below (component u s) (encodeBy componentSet u.fileName)).text] := by
  have hu := FileUrl.sound_parse hparse
  have hwithin : within u s ≠ true := fun h => hmem ((within_iff hu hs).mp h)
  have hne := text_moved_ne hparse henters
  rw [candidates_of_parse hparse hname, List.filter_cons_of_pos (by simp [hwithin]), List.filter_nil,
    List.map_singleton, List.filter_cons_of_pos (by simpa using hne), moved_eq hu henters]
  rfl

end

theorem encodeBy_fileName (hu : u.Sound) (hpercent : '%' ∉ u.fileName) :
    encodeBy componentSet u.fileName = u.fileName := by
  refine encodeBy_eq_self fun c hc => ?_
  obtain ⟨hset, hslash, hback⟩ := hu.name.plain c hc
  have hne : c ≠ '%' := fun he => hpercent (he ▸ hc)
  simp [componentSet, hset, hslash, hback, hne]

/-- **Candidates only move the file**, one for each segment in turn, and there are none unless the specifier is a file
URL that names a file. A segment that is a directory as it is written in the URL gives none. Any other of which
something is left gives one: the same URL with the segment, encoded, as one more directory, and with its last
component, which is encoded already, encoded once more. So the last component stays the same where there is no percent
sign in it; and where besides a segment is written like a directory only if its encoded form is one, the candidates
are those of the segments that are not directories yet. -/
theorem candidates_move (segments : List String) (specifier : String) :
    (∀ x ∈ candidates segments specifier, ∃ u, FileUrl.parse? specifier = some u ∧ u.fileName ≠ []) ∧
    candidates segments specifier = segments.flatMap (candidates [·] specifier) ∧
    ∀ u, FileUrl.parse? specifier = some u → u.fileName ≠ [] →
      u.path = FileUrl.pathOf u.directories u.fileName ∧
      (∀ s, '/' ∉ s.toList →
        (s.toList ∈ u.directories → candidates [s] specifier = []) ∧
        (s.toList ∉ u.directories → Enters s → candidates [s] specifier =
          [(u.below (component u s) (encodeBy componentSet u.fileName)).text])) ∧
      ('%' ∉ u.fileName →
        (∀ s ∈ segments, '/' ∉ s.toList ∧ Enters s ∧ (s.toList ∈ u.directories ↔ component u s ∈ u.directories)) →
        candidates segments specifier = (segments.filter fun s => component u s ∉ u.directories).map fun s =>
          (u.below (component u s) u.fileName).text) := by
  refine ⟨fun x => exists_of_mem_candidates, candidates_eq_flatMap segments specifier, fun u hparse hname => ?_⟩
  have hu := FileUrl.sound_parse hparse
  refine ⟨hu.path, fun s hs => ⟨candidates_of_mem hparse hname hs, fun hmem henters =>
    candidates_of_not_mem hparse hname hs henters hmem⟩, fun hpercent hsegments => ?_⟩
  rw [candidates_eq_flatMap]
  induction segments with
  | nil => rfl
  | cons s segments ih =>
    obtain ⟨hs, henters, hiff⟩ := hsegments s List.mem_cons_self
    rw [List.flatMap_cons, ih fun r hr => hsegments r (List.mem_cons_of_mem s hr)]
    by_cases hmem : component u s ∈ u.directories
    · rw [candidates_of_mem hparse hname hs (hiff.mpr hmem), List.filter_cons_of_neg (by simpa using hmem)]
      rfl
    · rw [candidates_of_not_mem hparse hname hs henters fun h => hmem (hiff.mp h), encodeBy_fileName hu hpercent,
        List.filter_cons_of_pos (by simpa using hmem)]
      rfl

example : candidates ["embed", "srv"] "file:///srv/main.ts?x#y" = ["file:///srv/embed/main.ts?x#y"] := by
  decide +kernel

/-- A last component that is encoded does not stay the same, and a directory that is encoded does not count. -/
theorem candidates_encoded :
    candidates ["embed"] "file:///srv/my%20file.ts" = ["file:///srv/embed/my%2520file.ts"] ∧
    candidates ["a b"] "file:///a%20b/x" = ["file:///a%20b/a%20b/x"] := by
  decide +kernel

end Fallback

end ScriptLink
